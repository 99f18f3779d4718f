import AssignmentGrid.Json.Record

/-!
# Users

The user to whom a token belongs, as the server gives it. Specification `SPEC_FULL.md:227–228`.
-/

namespace AssignmentGrid

/-- The user to whom a token belongs. -/
structure User where
  email : String
  name? : Option String
  deriving DecidableEq, Repr

namespace User

/-- The member for the mail address. -/
def emailMember : Json.Member String := .required "email" Json.toText

/-- The member for the name. -/
def nameMember : Json.Member (Option String) := .optional "name" Json.toText

/-- The members in the order of declaration. -/
def fields : List Json.Field := [emailMember.field, nameMember.field]

/-- A user from the wire form. -/
def ofJson (j : Json) : Json.Decoded User := do
  let members ← j.toMembers "struct UserInfo" fields
  return ⟨← emailMember.get members, ← nameMember.get members⟩

/-- The wire form of a user. -/
def toJson (u : User) : Json := .object [("email", .string u.email), ("name", .ofText? u.name?)]

end User

end AssignmentGrid
