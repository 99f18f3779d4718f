import AssignmentGrid.Json.Printer
import AssignmentGrid.Json.Record

/-!
# Credentials

The token that a user has stored and the backend for which it is good, kept in a file that nobody
else can read. Specification `SPEC_FULL.md:226–228`.
-/

namespace AssignmentGrid

/-- The text without slashes at its end. -/
def withoutEndSlashes (s : String) : String :=
  String.ofList (s.toList.reverse.dropWhile (· == '/')).reverse

/-- A stored token. Specification `SPEC_FULL.md:226–227`. -/
structure Credentials where
  token : String
  apiBase : String
  email? : Option String := none
  deriving DecidableEq, Repr

namespace Credentials

/-- A token for the backend at an address. -/
def ofToken (token apiBase : String) : Credentials where
  token := token
  apiBase := withoutEndSlashes apiBase

/-- The member for the token. -/
def tokenMember : Json.Member String := .required "token" Json.toText

/-- The member for the address. -/
def apiBaseMember : Json.Member String := .required "api_base" Json.toText

/-- The member for the mail address. -/
def emailMember : Json.Member (Option String) := .optional "user_email" Json.toText

/-- The members in the order of declaration. -/
def fields : List Json.Field := [tokenMember.field, apiBaseMember.field, emailMember.field]

/-- Credentials from a JSON value. -/
def ofJson (j : Json) : Json.Decoded Credentials := do
  let members ← j.toMembers "struct AuthCredentials" fields
  return ⟨← tokenMember.get members, ← apiBaseMember.get members, ← emailMember.get members⟩

/-- Credentials as a JSON value. -/
def toJson (c : Credentials) : Json :=
  .object [("token", .string c.token), ("api_base", .string c.apiBase),
    ("user_email", .ofText? c.email?)]

/-- The credentials in the text of a file; a file that cannot be read holds none. -/
def ofText? (cs : List Char) : Option Credentials :=
  match Json.parseRecord fields cs with
  | .ok j => (ofJson j).toOption
  | .error _ => none

/-- The text that is saved for credentials. -/
def text (c : Credentials) : List Char := c.toJson.pretty

/-- The place of the file below the configuration directory. Specification `SPEC_FULL.md:226`. -/
def fileName : String := "staffgrid/auth.json"

/-- The permissions of the file: only its owner may read and write it. Specification
`SPEC_FULL.md:227`. -/
def fileMode : Nat := 0o600

end Credentials

end AssignmentGrid
