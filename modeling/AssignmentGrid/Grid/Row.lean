import AssignmentGrid.Grid.Basic

/-!
# Rows of the grid

Rows of a person are fetched when they are asked for, a person is put on a project, and an
assignment is taken away. When the backend fails, the user is told and the grid stays as it is.
Specification `SPEC_FULL.md:168–170,179–181`.
-/

namespace AssignmentGrid.Grid

variable {σ : Type}

/-- The failure for a person that the grid does not hold. -/
def noPerson (p : PersonId) : GridError :=
  .notFound s!"person {Decimal.intText p.toInt}"

/-- The failure for an assignment that the grid does not hold. -/
def noAssignment (id : AssignmentId) : GridError :=
  .notFound s!"assignment {Decimal.intText id.toInt}"

/-- Put fetched rows in place of those of a person, and derive the totals that are not known. -/
def takeRows (g : Grid) (p : PersonId) (rows : List Assignment) : Grid :=
  let roster := g.roster.replaceRows p rows
  let totals := g.totals.deriveMissing p (roster.rowsFor p) g.axis.keys
  { g with sheet := ⟨roster, totals⟩ }.dropDangling

/-- Fetch the rows of a person, whether they are loaded or not. Specification `refresh_person`,
`SPEC_FULL.md:170`. -/
def refresh (g : Grid) (b : Backend σ) (p : PersonId) (s : σ) : Reply σ (Except GridError Unit) :=
  match b.fetchRows p s with
  | (.ok rows, s) => ⟨.ok (), g.takeRows p rows, s⟩
  | (.error e, s) => ⟨.error (.fetch e), g.complain s!"Could not load assignments: {e.message}", s⟩

/-- Fetch the rows of a person if they are not loaded; the result tells whether they were fetched.
Specification `expand_person`, `SPEC_FULL.md:169–170`. -/
def expand (g : Grid) (b : Backend σ) (p : PersonId) (s : σ) : Reply σ (Except GridError Bool) :=
  match g.roster.person? p with
  | none => ⟨.error (noPerson p), g, s⟩
  | some q =>
    if q.isLoaded then ⟨.ok false, g, s⟩
    else
      let reply := g.refresh b p s
      ⟨reply.result.map fun _ => true, reply.grid, reply.backend⟩

/-- Show a row that was created, with the totals of the weeks in which it has hours. -/
def takeCreated (g : Grid) (p : PersonId) (row : Assignment) : Grid :=
  let roster := g.roster.push row
  let totals := g.totals.recomputeAll p (roster.rowsFor p) row.hours.keys
  { g with sheet := ⟨roster, totals⟩ }.emit .analyticsInvalidated

/-- Put a person on a project; the result is the number of the assignment. Specification
`assign_project`, `create_row`, `SPEC_FULL.md:179–180`. -/
def assign (g : Grid) (b : Backend σ) (p : PersonId) (project : ProjectId) (s : σ) :
    Reply σ (Except GridError AssignmentId) :=
  match g.roster.person? p with
  | none => ⟨.error (noPerson p), g, s⟩
  | some _ =>
    match b.createRow p project s with
    | (.ok row, s) => ⟨.ok row.id, g.takeCreated p row, s⟩
    | (.error e, s) =>
      ⟨.error (.remoteWrite e), g.complain s!"Could not assign project: {e.message}", s⟩

/-- Take a row of a person away, with the totals of the axis and of the weeks in which it had
hours. -/
def takeAway (g : Grid) (p : PersonId) (id : AssignmentId) : Grid :=
  let (removed, roster) := g.roster.remove id
  let totals := match removed with
    | none => g.totals
    | some row =>
      let weeks := g.axis.keys ++ row.hours.keys.filter fun week => !g.axis.contains week
      g.totals.recomputeAll p (roster.rowsFor p) weeks
  ({ g with sheet := ⟨roster, totals⟩ }.dropDangling).emit .analyticsInvalidated

/-- Delete an assignment and everything that refers to it. Specification `remove_assignment`,
`delete_row`, `SPEC_FULL.md:180–181`. -/
def unassign (g : Grid) (b : Backend σ) (id : AssignmentId) (s : σ) :
    Reply σ (Except GridError Unit) :=
  match g.roster.ownerOf? id with
  | none => ⟨.error (noAssignment id), g, s⟩
  | some p =>
    match b.deleteRow id s with
    | (.ok _, s) => ⟨.ok (), g.takeAway p id, s⟩
    | (.error e, s) =>
      ⟨.error (.remoteWrite e), g.complain s!"Could not remove assignment: {e.message}", s⟩

end AssignmentGrid.Grid
