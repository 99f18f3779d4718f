import AssignmentGrid.Totals

/-!
# Snapshots

A snapshot is what a load delivers: the week columns, the people in scope, the rows that came with
them, the projects, and totals by person and week. Specification
`SPEC_FULL.md:58–59,76–78,84–85,212`.
-/

namespace AssignmentGrid

/-- A person in scope. -/
structure Person where
  id : PersonId
  name : String
  deriving DecidableEq, Repr

/-- A project. Specification `ProjectInfo`, `SPEC_FULL.md:84–85`. -/
structure Project where
  id : ProjectId
  name : String
  status? : Option String
  deriving DecidableEq, Repr

/-- What a load delivers. Specification `SPEC_FULL.md:58–59,76–78,84–85`. -/
structure Snapshot where
  weeks : List WeekKey
  people : List Person := []
  rows : List Assignment := []
  projects : List Project := []
  totals : Totals := .empty

namespace Person

/-- The member for the number. -/
def idMember : Json.Member PersonId := .required "id" Json.toInt64

/-- The member for the name. -/
def nameMember : Json.Member String := .defaulted "name" Json.toText ""

/-- The members in the order of declaration. -/
def fields : List Json.Field := [idMember.field, nameMember.field]

/-- A person from the wire form. -/
def ofJson (j : Json) : Json.Decoded Person := do
  let members ← j.toMembers "struct PersonSummary" fields
  return ⟨← idMember.get members, ← nameMember.get members⟩

/-- The wire form of a person. -/
def toJson (p : Person) : Json := .object [("id", .ofInt64 p.id), ("name", .string p.name)]

end Person

namespace Project

/-- The member for the number. -/
def idMember : Json.Member ProjectId := .required "id" Json.toInt64

/-- The member for the name. -/
def nameMember : Json.Member String := .defaulted "name" Json.toText ""

/-- The member for the status. -/
def statusMember : Json.Member (Option String) := .optional "status" Json.toText

/-- The members in the order of declaration. -/
def fields : List Json.Field := [idMember.field, nameMember.field, statusMember.field]

/-- A project from the wire form. -/
def ofJson (j : Json) : Json.Decoded Project := do
  let members ← j.toMembers "struct ProjectInfo" fields
  return ⟨← idMember.get members, ← nameMember.get members, ← statusMember.get members⟩

/-- The wire form of a project. -/
def toJson (p : Project) : Json :=
  .object [("id", .ofInt64 p.id), ("name", .string p.name), ("status", .ofText? p.status?)]

end Project

namespace Snapshot

/-- A usable snapshot has at least one week column. -/
def isPopulated (s : Snapshot) : Bool := !s.weeks.isEmpty

/-- A week key is a text. -/
def weekOfJson (j : Json) : Json.Decoded WeekKey := WeekKey.mk <$> j.toText

/-- The member for the week columns. -/
def weeksMember : Json.Member (List WeekKey) :=
  (Json.Member.required "week_keys" (Json.toList weekOfJson)).orNamed "weekKeys"

/-- The member for the people. -/
def peopleMember : Json.Member (List Person) := .defaulted "people" (Json.toList Person.ofJson) []

/-- The member for the rows. -/
def rowsMember : Json.Member (List Assignment) :=
  .defaulted "rows" (Json.toList Assignment.ofJson) []

/-- The member for the projects. -/
def projectsMember : Json.Member (List Project) :=
  .defaulted "projects" (Json.toList Project.ofJson) []

/-- The member for the totals. -/
def totalsMember : Json.Member Totals :=
  (Json.Member.defaulted "totals" Totals.ofJson .empty).orNamed "hoursByPerson"

/-- The members in the order of declaration. -/
def fields : List Json.Field :=
  [weeksMember.field, peopleMember.field, rowsMember.field, projectsMember.field,
    totalsMember.field]

/-- A snapshot from its wire form. -/
def ofJson (j : Json) : Json.Decoded Snapshot := do
  let members ← j.toMembers "struct Snapshot" fields
  return {
    weeks := ← weeksMember.get members
    people := ← peopleMember.get members
    rows := ← rowsMember.get members
    projects := ← projectsMember.get members
    totals := ← totalsMember.get members }

/-- The wire form of a snapshot. -/
def toJson (s : Snapshot) : Json :=
  .object [("week_keys", .array (s.weeks.map fun w => .string w.text)),
    ("people", .array (s.people.map Person.toJson)),
    ("rows", .array (s.rows.map Assignment.toJson)),
    ("projects", .array (s.projects.map Project.toJson)), ("totals", s.totals.toJson)]

end Snapshot

end AssignmentGrid
