import AssignmentGrid.Json.Value
import AssignmentGrid.Text.Place
import AssignmentGrid.Text.Quoted

/-!
# Decoding JSON values

A value is decoded into a type of the domain, or refused for a cause. Integers are taken only
from whole numbers, doubles from every number, and nothing is converted from a text except the
names of members that are numbers in quotes.
-/

namespace AssignmentGrid.Json

/-- What was found where something else was expected. -/
inductive Found where
  | null
  | bool (b : Bool)
  | number (n : Number)
  | text (s : String)
  | sequence
  | map
  deriving DecidableEq, Repr

/-- The wording of what was found. -/
def Found.message : Found → String
  | null => "null"
  | bool true => "boolean `true`"
  | bool false => "boolean `false`"
  | number (.real x) => s!"floating point `{String.ofList (Number.real x).chars}`"
  | number n => s!"integer `{String.ofList n.chars}`"
  | text s => s!"string {Text.quote s}"
  | sequence => "sequence"
  | map => "map"

/-- What a value is found to be. -/
def found : Json → Found
  | .null => .null
  | .bool b => .bool b
  | .number n => .number n
  | .string s => .text s
  | .array _ => .sequence
  | .object _ => .map

/-- Why a value is refused. -/
inductive DecodeError where
  /-- A value of another kind. -/
  | wrongType (found : Found) (expected : String)
  /-- A value of the right kind, but out of range. -/
  | wrongValue (found : Found) (expected : String)
  /-- A required member is not there. -/
  | missingField (name : String)
  /-- A member is given twice, under its name or under another name of it. -/
  | duplicateField (name : String)
  /-- A name that is none of the known ones. -/
  | unknownName (name : String) (known : List String)
  /-- A list with too few or too many items. -/
  | wrongLength (count : Nat) (expected : String)
  /-- A member whose name is not a number in quotes. -/
  | keyNotNumber
  /-- Not JSON. -/
  | malformed (fault : Fault)
  /-- An error at a place in a text. -/
  | inText (cause : DecodeError) (place : Text.Place)
  deriving DecidableEq, Repr

namespace DecodeError

/-- The wording of a cause. -/
def message : DecodeError → String
  | wrongType found expected => s!"invalid type: {found.message}, expected {expected}"
  | wrongValue found expected => s!"invalid value: {found.message}, expected {expected}"
  | missingField name => s!"missing field `{name}`"
  | duplicateField name => s!"duplicate field `{name}`"
  | unknownName name known =>
    let list := String.intercalate ", " (known.map fun k => s!"`{k}`")
    s!"unknown variant `{name}`, expected one of {list}"
  | wrongLength count expected => s!"invalid length {count}, expected {expected}"
  | keyNotNumber => "invalid value: expected key to be a number in quotes"
  | malformed fault => fault.message
  | inText cause place => s!"{cause.message} {place.message}"

/-- Whether the wording ends in a place in a text. -/
def hasPlace : DecodeError → Bool
  | inText _ _ => true
  | _ => false

end DecodeError

/-- What decoding gives. -/
abbrev Decoded (α : Type) := Except DecodeError α

/-- Refuse a value of another kind. -/
def refuse {α : Type} (j : Json) (expected : String) : Decoded α :=
  .error (.wrongType j.found expected)

/-- A signed 64-bit integer from a number. -/
def Number.toInt64 : Number → Decoded Int64
  | .whole n =>
    if n.toNat < 0x8000000000000000 then .ok n.toInt64
    else .error (.wrongValue (.number (.whole n)) "i64")
  | .negative n => .ok n
  | .real x => .error (.wrongType (.number (.real x)) "i64")

/-- An unsigned integer up to `limit` from a number. -/
def Number.toBounded (limit : Nat) (expected : String) : Number → Decoded Nat
  | .whole n =>
    if n.toNat ≤ limit then .ok n.toNat else .error (.wrongValue (.number (.whole n)) expected)
  | .negative n => .error (.wrongValue (.number (.negative n)) expected)
  | .real x => .error (.wrongType (.number (.real x)) expected)

/-- The double nearest to a number. -/
def Number.toFloat : Number → Float
  | .whole n => Float.ofNat n.toNat
  | .negative n => Float.ofInt n.toInt
  | .real x => x

/-- A signed 64-bit integer. -/
def toInt64 : Json → Decoded Int64
  | .number n => n.toInt64
  | j => refuse j "i64"

/-- An unsigned 32-bit integer. -/
def toUInt32 : Json → Decoded UInt32
  | .number n => (n.toBounded (UInt32.size - 1) "u32").map UInt32.ofNat
  | j => refuse j "u32"

/-- An unsigned 64-bit integer. -/
def toUInt64 : Json → Decoded UInt64
  | .number n => (n.toBounded (UInt64.size - 1) "u64").map UInt64.ofNat
  | j => refuse j "u64"

/-- A double. -/
def toFloat : Json → Decoded Float
  | .number n => .ok n.toFloat
  | j => refuse j "f64"

/-- A truth value. -/
def toBool : Json → Decoded Bool
  | .bool b => .ok b
  | j => refuse j "a boolean"

/-- A text. -/
def toText : Json → Decoded String
  | .string s => .ok s
  | j => refuse j "a string"

/-- A value that may be absent, which `null` says. -/
def toOption {α : Type} (read : Json → Decoded α) : Json → Decoded (Option α)
  | .null => .ok none
  | j => (read j).map some

/-- The items of a list, read from the first on. -/
def toList {α : Type} (read : Json → Decoded α) : Json → Decoded (List α)
  | .array items => items.mapM read
  | j => refuse j "a sequence"

/-- The members of a map, in their order, each name and value read. -/
def toEntries {κ α : Type} (readKey : String → Decoded κ) (read : Json → Decoded α) :
    Json → Decoded (List (κ × α))
  | .object members => members.mapM fun m => do
    let key ← readKey m.1
    let value ← read m.2
    return (key, value)
  | j => refuse j "a map"

/-- What reading a number from the front of a text gives: the number and how many characters it
takes, or the fault and where it lies. -/
def NumberScan.take (scan : NumberScan) (count : Nat) :
    List Char → Except (Fault × Nat) (NumberText × Nat)
  | [] => if scan.isComplete then .ok (scan.text, count) else .error (.endInValue, count)
  | c :: cs =>
    match scan.step c with
    | .more scan => scan.take (count + 1) cs
    | .stop => .ok (scan.text, count)
    | .bad => .error (.badNumber, count + 1)

/-- A signed 64-bit integer in quotes, as the name of a member. -/
def int64OfKey (key : String) : Decoded Int64 :=
  match key.toList with
  | [] => .error .keyNotNumber
  | c :: cs =>
    match NumberScan.start? c with
    | none => .error .keyNotNumber
    | some scan =>
      match scan.take 1 cs with
      | .error (fault, column) => .error (.inText (.malformed fault) (.behind column key.toList))
      | .ok (text, column) =>
        match Number.ofText text with
        | none =>
          let column := column - Number.charsLeft text
          .error (.inText (.malformed .numberOutOfRange) (.behind column key.toList))
        | some n =>
          match n.toInt64 with
          | .error cause => .error (.inText cause (.behind column key.toList))
          | .ok value => if column = key.length then .ok value else .error .keyNotNumber

end AssignmentGrid.Json
