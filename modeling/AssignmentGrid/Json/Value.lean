import AssignmentGrid.Json.Parser

/-!
# JSON values

A JSON value denotes its raw form with numbers and strings read. A *canonical* value lists the
members of every object in ascending order of their names and each name once; of members with one
name the last one counts.
-/

namespace AssignmentGrid

/-- A JSON value. -/
inductive Json where
  | null
  | bool (b : Bool)
  | number (n : Json.Number)
  | string (s : String)
  | array (items : List Json)
  | object (members : List (String × Json))
  deriving Inhabited

namespace Json

/-- The characters of a string, with the two halves of a surrogate pair joined. -/
def readPieces : List Piece → Except Fault (List Char)
  | [] => .ok []
  | .char c :: more => (readPieces more).map (c :: ·)
  | .unit high :: .unit low :: more =>
    if isHigh high then
      if isLow low then
        (readPieces more).map
          (Char.ofNat (0x10000 + (high - 0xD800) * 0x400 + (low - 0xDC00)) :: ·)
      else .error .loneSurrogate
    else if isLow high then .error .loneSurrogate
    else (readPieces (.unit low :: more)).map (Char.ofNat high :: ·)
  | .unit high :: more =>
    if isHigh high then .error .brokenPair
    else if isLow high then .error .loneSurrogate
    else (readPieces more).map (Char.ofNat high :: ·)

mutual

/-- The value that a raw value denotes, the members of objects in their order. -/
def ofRaw : Raw → Except Fault Json
  | .null => .ok .null
  | .bool b => .ok (.bool b)
  | .number t => match Number.ofText t with
    | some n => .ok (.number n)
    | none => .error .numberOutOfRange
  | .text pieces => (readPieces pieces).map fun cs => .string (String.ofList cs)
  | .array items => (ofRawItems items).map .array
  | .object members => (ofRawMembers members).map .object

/-- The values of the items of an array. -/
def ofRawItems : List Raw → Except Fault (List Json)
  | [] => .ok []
  | item :: more => do
    let value ← ofRaw item
    let values ← ofRawItems more
    return value :: values

/-- The members of an object, in their order. -/
def ofRawMembers : List (List Piece × Raw) → Except Fault (List (String × Json))
  | [] => .ok []
  | (key, item) :: more => do
    let name ← readPieces key
    let value ← ofRaw item
    let members ← ofRawMembers more
    return (String.ofList name, value) :: members

end

/-- Put a member into its place among members in ascending order, replacing one of its name. -/
def insertMember (name : String) (value : Json) : List (String × Json) → List (String × Json)
  | [] => [(name, value)]
  | (other, v) :: more =>
    match compare name other with
    | .lt => (name, value) :: (other, v) :: more
    | .eq => (name, value) :: more
    | .gt => (other, v) :: insertMember name value more

/-- Members in ascending order; of members with one name the last one counts. -/
def sortMembers (members : List (String × Json)) : List (String × Json) :=
  members.foldl (fun sorted m => insertMember m.1 m.2 sorted) []

mutual

/-- The canonical form of a value. -/
def canonical : Json → Json
  | .array items => .array (canonicalItems items)
  | .object members => .object (sortMembers (canonicalMembers members))
  | value => value

/-- The canonical forms of the items of an array. -/
def canonicalItems : List Json → List Json
  | [] => []
  | item :: more => canonical item :: canonicalItems more

/-- Members with the canonical forms of their values. -/
def canonicalMembers : List (String × Json) → List (String × Json)
  | [] => []
  | (name, value) :: more => (name, canonical value) :: canonicalMembers more

end

mutual

/-- How deep arrays and objects are nested. -/
def depth : Json → Nat
  | .array items => depthItems items + 1
  | .object members => depthMembers members + 1
  | _ => 0

/-- The greatest depth of the items of an array. -/
def depthItems : List Json → Nat
  | [] => 0
  | item :: more => max (depth item) (depthItems more)

/-- The greatest depth of the values of members. -/
def depthMembers : List (String × Json) → Nat
  | [] => 0
  | (_, value) :: more => max (depth value) (depthMembers more)

end

/-- How deep a text that is read as a value may be nested. -/
def depthLimit : Nat := 127

/-- The value of a JSON text with the members of objects in their order. -/
def parseInOrder (cs : List Char) : Except Fault Json := do
  let value ← ofRaw (← Raw.parse cs)
  if depthLimit < value.depth then throw .nestedTooDeep
  return value

/-- The canonical value of a JSON text. -/
def parse (cs : List Char) : Except Fault Json := canonical <$> parseInOrder cs

/-- An object with canonical order of its members. -/
def ofMembers (members : List (String × Json)) : Json := .object (sortMembers members)

/-- The member of an object with the given name; anything else has none. -/
def member? (name : String) : Json → Option Json
  | .object members => members.lookup name
  | _ => none

/-- A signed 64-bit integer as a value. -/
def ofInt64 (n : Int64) : Json := .number (Number.ofInt64 n)

/-- An unsigned 64-bit integer as a value. -/
def ofUInt64 (n : UInt64) : Json := .number (.whole n)

/-- A double as a value; infinities and NaN become `null`. -/
def ofFloat (x : Float) : Json := if x.isFinite then .number (.real x) else .null

/-- An optional text as a value. -/
def ofText? : Option String → Json
  | some s => .string s
  | none => .null

end Json

end AssignmentGrid
