import AssignmentGrid.Hours

/-!
# Assignments

An assignment puts a person on a project with hours week by week. It makes up one row of the grid,
and each week of it is a cell. Specification `Assignment`, `CellRef`, `SPEC_FULL.md:61–69`.
-/

namespace AssignmentGrid

/-- The number of a person. -/
abbrev PersonId := Int64

/-- The number of an assignment. -/
abbrev AssignmentId := Int64

/-- The number of a project. -/
abbrev ProjectId := Int64

/-- A row of the grid: an assignment of a person. Specification `RowKey`, `SPEC_FULL.md:68–69`. -/
structure RowKey where
  person : PersonId
  assignment : AssignmentId
  deriving DecidableEq, Repr

/-- A cell of the grid: one week of a row. Specification `CellRef`, `SPEC_FULL.md:68–69`. -/
structure Cell where
  row : RowKey
  week : WeekKey
  deriving DecidableEq, Repr

/-- The cell of the same row in another week. -/
def Cell.inWeek (c : Cell) (week : WeekKey) : Cell := { c with week }

/-- One person on one project, with hours by week. Specification `Assignment`, `SPEC_FULL.md:61–67`.
-/
structure Assignment where
  id : AssignmentId
  person : PersonId
  project : ProjectId
  personName? : Option String := none
  projectName? : Option String := none
  projectStatus? : Option String := none
  hours : Hours := ∅

namespace Assignment

/-- The row that an assignment makes up. -/
def row (a : Assignment) : RowKey := ⟨a.person, a.id⟩

/-- The member `id`. -/
def idMember : Json.Member AssignmentId := .required "id" Json.toInt64

/-- The member for the person. -/
def personMember : Json.Member PersonId :=
  (Json.Member.required "person_id" Json.toInt64).orNamed "person"

/-- The member for the project. -/
def projectMember : Json.Member ProjectId :=
  (Json.Member.required "project_id" Json.toInt64).orNamed "project"

/-- The member for the person's name. -/
def personNameMember : Json.Member (Option String) := .optional "person_name" Json.toText

/-- The member for the project's name. -/
def projectNameMember : Json.Member (Option String) := .optional "project_name" Json.toText

/-- The member for the project's status. -/
def projectStatusMember : Json.Member (Option String) := .optional "project_status" Json.toText

/-- The member for the hours. -/
def hoursMember : Json.Member Hours :=
  (Json.Member.defaulted "weekly_hours" Hours.ofJson ∅).orNamed "weeklyHours"

/-- The members in the order of declaration. -/
def fields : List Json.Field :=
  [idMember.field, personMember.field, projectMember.field, personNameMember.field,
    projectNameMember.field, projectStatusMember.field, hoursMember.field]

/-- An assignment from its wire form. -/
def ofJson (j : Json) : Json.Decoded Assignment := do
  let members ← j.toMembers "struct Assignment" fields
  return {
    id := ← idMember.get members
    person := ← personMember.get members
    project := ← projectMember.get members
    personName? := ← personNameMember.get members
    projectName? := ← projectNameMember.get members
    projectStatus? := ← projectStatusMember.get members
    hours := ← hoursMember.get members }

/-- The wire form of an assignment; absent names and an absent status are left out. -/
def toJson (a : Assignment) : Json :=
  let text (name : String) (value : Option String) : List (String × Json) :=
    value.toList.map fun s => (name, .string s)
  .object ([("id", .ofInt64 a.id), ("person_id", .ofInt64 a.person),
      ("project_id", .ofInt64 a.project)]
    ++ text "person_name" a.personName? ++ text "project_name" a.projectName?
    ++ text "project_status" a.projectStatus? ++ [("weekly_hours", a.hours.toJson)])

end Assignment

end AssignmentGrid
