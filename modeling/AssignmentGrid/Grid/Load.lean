import AssignmentGrid.Grid.Basic
import AssignmentGrid.Load.Acquisition

/-!
# Loading a grid

A load begins with a ticket, obtains a snapshot and finishes with what it obtained. Loads may
overlap: only the ticket that was given out last has any effect, everything that comes from an
earlier one is dropped. Specification `SPEC_FULL.md:160–161,166–167,189–191`.
-/

namespace AssignmentGrid.Grid

/-- Begin a load; loads that are under way become stale. Specification `begin_load`,
`SPEC_FULL.md:160–161,190`. -/
def beginLoad (g : Grid) (request : LoadRequest) : LoadTicket × Grid :=
  let generation := g.generation + 1
  (⟨generation, request⟩, { g with generation, request, loadState := .loading })

/-- Whether a ticket is the one that was given out last. Operation `is_current`, specification
`SPEC_FULL.md:161`. -/
def isCurrent (g : Grid) (ticket : LoadTicket) : Bool := ticket.generation == g.generation

/-- Take note of how far the job of a load has come. Operation `record_progress`, specification
`SPEC_FULL.md:152–153,183`. -/
def recordProgress (g : Grid) (ticket : LoadTicket) (job : JobProgress) : Grid :=
  if g.isCurrent ticket then
    { g with loadState := .polling job }.emit (.progress job.percent job.message?)
  else g

/-- The totals of a snapshot, completed by sums for the people whose rows it holds. Specification
`SPEC_FULL.md:76–78`. -/
def loadedTotals (axis : WeekAxis) (roster : Roster) (totals : Totals) : Totals :=
  (roster.people.filter PersonRow.isLoaded).foldl
    (fun t p => t.deriveMissing p.id p.rows axis.keys) totals

/-- Show the data of a snapshot, with nothing selected or edited. Operation `apply_snapshot`,
specification `SPEC_FULL.md:166–167`. -/
def applySnapshot (g : Grid) (s : Snapshot) : Grid :=
  let axis := WeekAxis.ofKeys s.weeks
  let roster := Roster.ofSnapshot s.people s.rows
  { g with
    axis
    sheet := ⟨roster, loadedTotals axis roster s.totals⟩
    projects := .ofList s.projects
    selection := {}
    edit? := none }

/-- Tell the user of a warning, if there is one. -/
def warn? (g : Grid) : Option String → Grid
  | some message => g.emit (.notice .warning message)
  | none => g

/-- Finish a load with what it obtained. The result tells whether the load was still current.
Specification `finish_load`, `SPEC_FULL.md:161,190,249–250`. -/
def finishLoad (g : Grid) (ticket : LoadTicket) (obtained : Except GridError LoadOutcome) :
    Except GridError Bool × Grid :=
  if g.isCurrent ticket then
    match obtained with
    | .ok outcome =>
      let g := { g.applySnapshot outcome.snapshot with loadState := .ready }
      (.ok true, (g.warn? outcome.warning?).emit (.loaded ticket.generation outcome.path))
    | .error e => (.error e, { g with loadState := .failed e.message })
  else (.ok false, g)

variable {σ : Type}

/-- Finish a load with the way that was taken to a snapshot: first what was heard of its job is
noted, then comes what the way led to. -/
def completeLoad (g : Grid) (ticket : LoadTicket)
    (acquired : Acquired σ (Except GridError LoadOutcome)) : Reply σ (Except GridError Bool) :=
  let g := acquired.progress.foldl (fun g job => g.recordProgress ticket job) g
  let (result, g) := g.finishLoad ticket acquired.result
  ⟨result, g, acquired.backend⟩

/-- Load from the beginning to the end. Operation `load`, specification `SPEC_FULL.md:166–167`. -/
def load (g : Grid) (b : Backend σ) (request : LoadRequest) (s : σ) :
    Reply σ (Except GridError Unit) :=
  let (ticket, g) := g.beginLoad request
  let reply := g.completeLoad ticket (Load.acquire g.config b request s)
  ⟨reply.result.map fun _ => (), reply.grid, reply.backend⟩

/-- Load again what was loaded last. -/
def reload (g : Grid) (b : Backend σ) (s : σ) : Reply σ (Except GridError Unit) :=
  g.load b g.request s

/-- Load another number of weeks. -/
def setWeeks (g : Grid) (b : Backend σ) (weeks : UInt32) (s : σ) :
    Reply σ (Except GridError Unit) :=
  g.load b { g.request with weeks } s

/-- Load another scope. -/
def setScope (g : Grid) (b : Backend σ) (scope : Scope) (s : σ) : Reply σ (Except GridError Unit) :=
  g.load b { g.request with scope } s

end AssignmentGrid.Grid
