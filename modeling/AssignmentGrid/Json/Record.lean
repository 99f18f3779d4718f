import AssignmentGrid.Json.Decode

/-!
# Records

A record is an object with known members, in any order, or an array of their values in the order
of declaration. A member may have a second name and may be left out if it has a default; unknown
members are ignored. The members are checked in the order in which they stand, so that the first
bad one is the cause of a refusal, and missing ones are looked for afterwards.
-/

namespace AssignmentGrid.Json

/-- A member of a record that is read as an `α`. -/
structure Member (α : Type) where
  name : String
  /-- A second name. -/
  other? : Option String := none
  read : Json → Decoded α
  /-- What a left out member stands for; without it the member is required. -/
  default? : Option α := none

/-- A member of a record as far as checking needs it. -/
structure Field where
  name : String
  other? : Option String
  /-- The cause for which a value is refused. -/
  refusal : Json → Option DecodeError
  isRequired : Bool

/-- What is needed to check a member. -/
def Member.field {α : Type} (m : Member α) : Field where
  name := m.name
  other? := m.other?
  refusal j := match m.read j with
    | .ok _ => none
    | .error e => some e
  isRequired := m.default?.isNone

/-- Whether a member goes by a name. -/
def Field.answersTo (f : Field) (name : String) : Bool := name == f.name || f.other? == some name

/-- The members of a record, checked in their order; `seen` are the known ones so far. -/
def checkMembers (fields : List Field) (seen : List String) :
    List (String × Json) → Decoded Unit
  | [] => .ok ()
  | (name, value) :: more =>
    match fields.find? fun f => f.answersTo name with
    | none => checkMembers fields seen more
    | some f =>
      if seen.contains f.name then .error (.duplicateField f.name)
      else match f.refusal value with
        | some cause => .error cause
        | none => checkMembers fields (f.name :: seen) more

/-- The first required member that is not there. -/
def missing? (fields : List Field) (members : List (String × Json)) : Option Field :=
  fields.find? fun f => f.isRequired && !members.any fun m => f.answersTo m.1

/-- The checked members of a record; `title` names the record in a refusal. -/
def toMembers (title : String) (fields : List Field) : Json → Decoded (List (String × Json))
  | .object members => do
    checkMembers fields [] members
    match missing? fields members with
    | some f => .error (.missingField f.name)
    | none => .ok members
  | .array items => do
    let members := (fields.map Field.name).zip items
    checkMembers fields [] members
    if (missing? fields members).isSome then
      let noun := if fields.length = 1 then "element" else "elements"
      .error (.wrongLength items.length s!"{title} with {fields.length} {noun}")
    else if fields.length < items.length then
      .error (.wrongLength items.length "fewer elements in array")
    else .ok members
  | j => refuse j title

/-- The value of a member among checked members. -/
def Member.get {α : Type} (m : Member α) (members : List (String × Json)) : Decoded α :=
  match members.find? fun e => m.field.answersTo e.1 with
  | some e => m.read e.2
  | none =>
    match m.default? with
    | some value => .ok value
    | none => .error (.missingField m.name)

/-- A required member. -/
def Member.required {α : Type} (name : String) (read : Json → Decoded α) : Member α where
  name := name
  read := read

/-- A member that may be left out or be `null`. -/
def Member.optional {α : Type} (name : String) (read : Json → Decoded α) : Member (Option α) where
  name := name
  read := toOption read
  default? := some none

/-- A member that may be left out, but not be `null`. -/
def Member.defaulted {α : Type} (name : String) (read : Json → Decoded α) (value : α) :
    Member α where
  name := name
  read := read
  default? := some value

/-- The same member under a second name too. -/
def Member.orNamed {α : Type} (m : Member α) (other : String) : Member α :=
  { m with other? := some other }

/-- The members of an object that some field of a record answers to, as they were written. -/
def knownMembers (fields : List Field) :
    List (List Piece × Raw) → Except Fault (List (String × Json))
  | [] => .ok []
  | (key, value) :: more => do
    let name := String.ofList (← readPieces key)
    if fields.any fun f => f.answersTo name then
      let value ← ofRaw value
      let members ← knownMembers fields more
      return (name, value) :: members
    else knownMembers fields more

/-- The value of a text that is to be read as a record: unknown members are left out and need
only be JSON. -/
def ofRawRecord (fields : List Field) : Raw → Except Fault Json
  | .object members => (knownMembers fields members).map .object
  | raw => ofRaw raw

/-- The value of a text that is to be read as a record. -/
def parseRecord (fields : List Field) (cs : List Char) : Decoded Json :=
  match Raw.parse cs with
  | .error fault => .error (.malformed fault)
  | .ok raw =>
    match ofRawRecord fields raw with
    | .error fault => .error (.malformed fault)
    | .ok value => .ok value

end AssignmentGrid.Json
