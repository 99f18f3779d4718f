import AssignmentGrid.Json.Token

/-!
# Parsing JSON

A JSON text denotes a tree of raw values: numbers and strings are kept as they were written, and
the members of an object in their order, repetitions included. The parser is a machine that takes
one token at a time and keeps the open arrays and objects on a stack.
-/

namespace AssignmentGrid.Json

/-- A JSON value as it was written. -/
inductive Raw where
  | null
  | bool (b : Bool)
  | number (t : NumberText)
  | text (pieces : List Piece)
  | array (items : List Raw)
  | object (members : List (List Piece × Raw))

/-- Why a text is not a JSON text. -/
inductive Fault where
  | endInValue
  | endInArray
  | endInObject
  | endInText
  | expectedValue
  | expectedWord
  | expectedColon
  | expectedItemEnd
  | expectedMemberEnd
  | expectedKey
  | trailingComma
  | trailingText
  | badNumber
  | badEscape
  | controlCharacter
  | loneSurrogate
  | brokenPair
  | numberOutOfRange
  | nestedTooDeep
  deriving DecidableEq, Repr

/-- The wording of a fault. -/
def Fault.message : Fault → String
  | endInValue => "EOF while parsing a value"
  | endInArray => "EOF while parsing a list"
  | endInObject => "EOF while parsing an object"
  | endInText => "EOF while parsing a string"
  | expectedValue => "expected value"
  | expectedWord => "expected ident"
  | expectedColon => "expected `:`"
  | expectedItemEnd => "expected `,` or `]`"
  | expectedMemberEnd => "expected `,` or `\x7d`"
  | expectedKey => "key must be a string"
  | trailingComma => "trailing comma"
  | trailingText => "trailing characters"
  | badNumber => "invalid number"
  | badEscape => "invalid escape"
  | controlCharacter => "control character (\\u0000-\\u001F) found while parsing a string"
  | loneSurrogate => "lone leading surrogate in hex escape"
  | brokenPair => "unexpected end of hex escape"
  | numberOutOfRange => "number out of range"
  | nestedTooDeep => "recursion limit exceeded"

/-- An array or object that is still open. What it holds so far stands last first. -/
inductive Frame where
  | array (items : List Raw)
  | object (members : List (List Piece × Raw)) (key : Option (List Piece))

/-- What may come next. -/
inductive Expected where
  | value
  | valueOrClose
  | key
  | keyOrClose
  | colon
  | separator
  | nothing (value : Raw)

/-- The state of the parser: the open arrays and objects from the inside out, and what may come
next. -/
structure Machine where
  frames : List Frame
  expected : Expected

namespace Machine

/-- Before the first token. -/
def start : Machine := ⟨[], .value⟩

/-- A value is complete; it belongs to the innermost open array or object. -/
def complete (v : Raw) : List Frame → Machine
  | [] => ⟨[], .nothing v⟩
  | .array items :: frames => ⟨.array (v :: items) :: frames, .separator⟩
  | .object members (some key) :: frames =>
    ⟨.object ((key, v) :: members) none :: frames, .separator⟩
  | .object members none :: frames => ⟨.object members none :: frames, .separator⟩

/-- A flaw where a value may stand. -/
def valueFault : Flaw → Fault
  | .stray => .expectedValue
  | .word => .expectedWord
  | .cutShort => .endInValue
  | .number => .badNumber
  | .openText => .endInText
  | .escape => .badEscape
  | .control => .controlCharacter

/-- Take a token that begins a value. -/
def takeValue (frames : List Frame) : Token → Except Fault Machine
  | .null => .ok (complete .null frames)
  | .bool b => .ok (complete (.bool b) frames)
  | .number t => .ok (complete (.number t) frames)
  | .text pieces => .ok (complete (.text pieces) frames)
  | .openBracket => .ok ⟨.array [] :: frames, .valueOrClose⟩
  | .openBrace => .ok ⟨.object [] none :: frames, .keyOrClose⟩
  | .flaw f => .error (valueFault f)
  | .closeBrace | .closeBracket | .colon | .comma => .error .expectedValue

/-- Take a token that begins a member. -/
def takeKey (frames : List Frame) : Token → Except Fault Machine
  | .text pieces =>
    match frames with
    | .object members _ :: outer => .ok ⟨.object members (some pieces) :: outer, .colon⟩
    | _ => .error .expectedKey
  | .flaw .openText => .error .endInText
  | .flaw .escape => .error .badEscape
  | .flaw .control => .error .controlCharacter
  | _ => .error .expectedKey

/-- Take a token behind a value. -/
def takeSeparator (frames : List Frame) (t : Token) : Except Fault Machine :=
  match frames, t with
  | .array items :: outer, .closeBracket => .ok (complete (.array items.reverse) outer)
  | .array items :: outer, .comma => .ok ⟨.array items :: outer, .value⟩
  | .array _ :: _, _ => .error .expectedItemEnd
  | .object members _ :: outer, .closeBrace =>
    .ok (complete (.object members.reverse) outer)
  | .object members _ :: outer, .comma => .ok ⟨.object members none :: outer, .key⟩
  | .object _ _ :: _, _ => .error .expectedMemberEnd
  | [], _ => .error .trailingText

/-- Take one token. -/
def step (m : Machine) (t : Token) : Except Fault Machine :=
  match m.expected with
  | .value =>
    match m.frames, t with
    | .array _ :: _, .closeBracket => .error .trailingComma
    | frames, t => takeValue frames t
  | .valueOrClose =>
    match t with
    | .closeBracket => takeSeparator m.frames t
    | _ => takeValue m.frames t
  | .key =>
    match t with
    | .closeBrace => .error .trailingComma
    | _ => takeKey m.frames t
  | .keyOrClose =>
    match t with
    | .closeBrace => takeSeparator m.frames t
    | _ => takeKey m.frames t
  | .colon =>
    match t with
    | .colon => .ok ⟨m.frames, .value⟩
    | _ => .error .expectedColon
  | .separator => takeSeparator m.frames t
  | .nothing _ => .error .trailingText

/-- The value of a whole text, once its last token has been taken. -/
def finish (m : Machine) : Except Fault Raw :=
  match m.expected with
  | .nothing v => .ok v
  | .value | .key => .error .endInValue
  | .valueOrClose => .error .endInArray
  | .keyOrClose | .colon => .error .endInObject
  | .separator =>
    match m.frames with
    | .array _ :: _ => .error .endInArray
    | _ => .error .endInObject

/-- Take tokens one after the other. -/
def run (m : Machine) (ts : List Token) : Except Fault Machine := ts.foldlM step m

end Machine

/-- The value that a JSON text denotes, as it was written. -/
def Raw.parse (cs : List Char) : Except Fault Raw := do
  (← Machine.start.run (tokens cs)).finish

/-- Tokens can be taken in two portions. -/
theorem Machine.run_append (m : Machine) (ts us : List Token) :
    m.run (ts ++ us) = (m.run ts).bind fun m => m.run us := by
  simp only [Machine.run, List.foldlM_append]; rfl

end AssignmentGrid.Json
