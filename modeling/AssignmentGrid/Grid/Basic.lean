import AssignmentGrid.CellEdit
import AssignmentGrid.HoursWrite
import AssignmentGrid.StatusFilter
import AssignmentGrid.GridError

/-!
# The grid

The grid holds what has been loaded and what the user is doing with it. It never calls the backend
by itself: an operation that needs the backend is given it, and gives back the backend's next state.
Specification `GridController`, `SPEC_FULL.md:165–195`.
-/

namespace AssignmentGrid

/-- The loaded data, the user's selection and edit, and how far the load has come. Specification
`GridController`, `SPEC_FULL.md:194–195,264`. -/
structure Grid where
  axis : WeekAxis := .empty
  sheet : Sheet := ⟨.empty, .empty⟩
  projects : Projects := ∅
  filter : StatusFilter := .all
  selection : Selection := {}
  edit? : Option CellEdit := none
  config : LoadConfig := {}
  loadState : LoadState := .idle
  /-- The number of loads that have begun, in a word of 64 bits; only the last one may finish. -/
  generation : UInt64 := 0
  request : LoadRequest := {}
  /-- The cap of a cell. -/
  hoursCap : Float := Hours.weekCap
  /-- The events that have not been taken out yet. -/
  events : List Event := []

/-- What an operation gives: a result, the grid, and the backend's state. -/
structure Reply (σ α : Type) where
  result : α
  grid : Grid
  backend : σ

namespace Grid

/-- The people and their rows. -/
def roster (g : Grid) : Roster := g.sheet.roster

/-- The totals. -/
def totals (g : Grid) : Totals := g.sheet.totals

/-- The total of a pair. -/
def total (g : Grid) (p : PersonId) (week : WeekKey) : Float := g.totals.get p week

/-- The hours of a cell; zero for an unknown row. -/
def hours (g : Grid) (c : Cell) : Float :=
  match g.roster.find? c.row with
  | some a => a.hours.amount c.week
  | none => 0

/-- A project by number. -/
def project? (g : Grid) (id : ProjectId) : Option Project := g.projects[id]?

/-- Put an event into the queue. -/
def emit (g : Grid) (e : Event) : Grid := { g with events := g.events ++ [e] }

/-- Tell the user of an error. -/
def complain (g : Grid) (message : String) : Grid := g.emit (.notice .error message)

/-- Take the events out. Specification `drain_events`, `SPEC_FULL.md:184`. -/
def drain (g : Grid) : List Event × Grid := (g.events, { g with events := [] })

/-- The people as shown under the status filter; everyone if it cannot be applied. Operation
`visible_rows`, specification `SPEC_FULL.md:173–174`. -/
def visible (g : Grid) : List VisiblePerson :=
  match g.filter.apply g.projects g.roster with
  | .ok shown => shown
  | .error _ => g.roster.everyone

/-- The grid with another status filter. -/
def setFilter (g : Grid) (filter : StatusFilter) : Grid := { g with filter }

/-- Let go of the selection and of the edit if they refer to rows that are not held any more.
Operation `drop_dangling_refs`, specification `SPEC_FULL.md:180–181`. -/
def dropDangling (g : Grid) : Grid :=
  let isHeld (c : Cell) : Bool := (g.roster.find? c.row).isSome
  { g with
    selection := if g.selection.cells.all isHeld then g.selection else {}
    edit? := g.edit?.filter fun e => isHeld e.cell }

end Grid

end AssignmentGrid
