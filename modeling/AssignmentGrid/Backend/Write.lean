import AssignmentGrid.Assignment

/-!
# Batched writes

Hours of several rows are sent in one request, and the server says for each row whether it took
them. Specification `bulk_update_hours`, `SPEC_FULL.md:219`.
-/

namespace AssignmentGrid

/-- New hours of a row, in place of all its hours. Specification `SPEC_FULL.md:219`. -/
structure HoursUpdate where
  assignment : AssignmentId
  hours : Hours

/-- What the server says of one row of a batch. Specification `SPEC_FULL.md:219`. -/
structure RowResult where
  assignment : AssignmentId
  status : String
  error? : Option String
  deriving DecidableEq, Repr

namespace HoursUpdate

/-- The member for the row. -/
def assignmentMember : Json.Member AssignmentId := .required "assignment_id" Json.toInt64

/-- The member for the hours. -/
def hoursMember : Json.Member Hours := .required "weekly_hours" Hours.ofJson

/-- The members in the order of declaration. -/
def fields : List Json.Field := [assignmentMember.field, hoursMember.field]

/-- An update from its wire form. -/
def ofJson (j : Json) : Json.Decoded HoursUpdate := do
  let members ← j.toMembers "struct HoursUpdate" fields
  return ⟨← assignmentMember.get members, ← hoursMember.get members⟩

/-- The wire form of an update. -/
def toJson (u : HoursUpdate) : Json :=
  .object [("assignment_id", .ofInt64 u.assignment), ("weekly_hours", u.hours.toJson)]

end HoursUpdate

namespace RowResult

/-- The row was taken. -/
def ok (id : AssignmentId) : RowResult := ⟨id, "ok", none⟩

/-- The row was refused. -/
def failed (id : AssignmentId) (reason : String) : RowResult := ⟨id, "error", some reason⟩

/-- Whether the row was taken: the status says so in capitals or small letters. -/
def isOk (r : RowResult) : Bool := ["ok", "success", "updated"].contains r.status.toLower

/-- Why a row was refused, if it was: the error, or else the status. -/
def reason (r : RowResult) : String := r.error?.getD r.status

/-- The member for the row. -/
def assignmentMember : Json.Member AssignmentId := .required "assignment_id" Json.toInt64

/-- The member for the status. -/
def statusMember : Json.Member String := .required "status" Json.toText

/-- The member for the error. -/
def errorMember : Json.Member (Option String) := .optional "error" Json.toText

/-- The members in the order of declaration. -/
def fields : List Json.Field := [assignmentMember.field, statusMember.field, errorMember.field]

/-- A result from its wire form. -/
def ofJson (j : Json) : Json.Decoded RowResult := do
  let members ← j.toMembers "struct BulkUpdateResult" fields
  return ⟨← assignmentMember.get members, ← statusMember.get members, ← errorMember.get members⟩

/-- The wire form of a result. -/
def toJson (r : RowResult) : Json :=
  .object [("assignment_id", .ofInt64 r.assignment), ("status", .string r.status),
    ("error", .ofText? r.error?)]

end RowResult

end AssignmentGrid
