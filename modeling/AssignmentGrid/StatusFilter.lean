import AssignmentGrid.Roster

/-!
# The status filter

Rows can be limited to projects of certain statuses, which are compared without regard to ASCII
case. People whose rows are not loaded are always shown; the others only with a row that passes. The
rows shown are computed anew whenever they are asked for. Specification
`SPEC_FULL.md:84–85,173–174`.
-/

namespace AssignmentGrid

/-- The statuses that pass, in small letters; without any, everything does. Specification
`SPEC_FULL.md:84–85,173–174`. -/
structure StatusFilter where
  allowed : List String
  deriving DecidableEq, Repr

/-- A person as shown, with the assignments that pass. -/
structure VisiblePerson where
  person : PersonId
  assignments : List AssignmentId
  deriving DecidableEq, Repr

/-- A row whose project has no known status. -/
structure UnknownStatus where
  project : ProjectId
  assignment : AssignmentId
  deriving DecidableEq, Repr

/-- The wording for a row without a status. -/
def UnknownStatus.message (u : UnknownStatus) : String :=
  let project := Decimal.intText u.project.toInt
  let assignment := Decimal.intText u.assignment.toInt
  s!"no status for project {project} (assignment {assignment})"

/-- The known projects. -/
abbrev Projects := Std.ExtTreeMap ProjectId Project

/-- A table of projects; of projects with one number the last one counts. -/
def Projects.ofList (projects : List Project) : Projects :=
  Std.ExtTreeMap.ofList (projects.map fun p => (p.id, p))

/-- The status of a row: its own, or else that of its project. Operation `project_status`,
specification `SPEC_FULL.md:84–85`. -/
def Assignment.status (a : Assignment) (projects : Projects) : Except UnknownStatus String :=
  match a.projectStatus? <|> (projects[a.project]?).bind Project.status? with
  | some status => .ok status
  | none => .error ⟨a.project, a.id⟩

/-- A person with all rows that are held. -/
def PersonRow.visible (p : PersonRow) : VisiblePerson := ⟨p.id, p.rows.map Assignment.id⟩

/-- Every person with all rows that are held. -/
def Roster.everyone (r : Roster) : List VisiblePerson := r.people.map PersonRow.visible

namespace StatusFilter

/-- Everything passes. -/
def all : StatusFilter := ⟨[]⟩

/-- Only the given statuses pass. -/
def only (statuses : List String) : StatusFilter := ⟨statuses.map String.toLower⟩

/-- Whether everything passes. -/
def isAll (f : StatusFilter) : Bool := f.allowed.isEmpty

/-- Whether a status passes. -/
def allows (f : StatusFilter) (status : String) : Bool :=
  f.isAll || f.allowed.contains status.toLower

/-- Whether a row passes. -/
def passes (f : StatusFilter) (projects : Projects) (a : Assignment) : Except UnknownStatus Bool :=
  if f.isAll then .ok true else (a.status projects).map f.allows

/-- The rows that pass. -/
def keep (f : StatusFilter) (projects : Projects) :
    List Assignment → Except UnknownStatus (List Assignment)
  | [] => .ok []
  | a :: rest => do
    let passed ← f.passes projects a
    let kept ← f.keep projects rest
    return if passed then a :: kept else kept

/-- A person as shown, if the person is shown. -/
def showPerson (f : StatusFilter) (projects : Projects) (p : PersonRow) :
    Except UnknownStatus (Option VisiblePerson) :=
  if p.isLoaded then do
    let kept ← f.keep projects p.rows
    return if f.isAll || !kept.isEmpty then some ⟨p.id, kept.map Assignment.id⟩ else none
  else .ok (some ⟨p.id, []⟩)

/-- The people as shown. Operation `visible_rows`, specification `SPEC_FULL.md:173`. -/
def apply (f : StatusFilter) (projects : Projects) (r : Roster) :
    Except UnknownStatus (List VisiblePerson) :=
  (r.people.mapM (f.showPerson projects)).map fun shown => shown.filterMap id

end StatusFilter

end AssignmentGrid
