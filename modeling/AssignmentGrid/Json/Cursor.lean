import AssignmentGrid.Json.Decode

/-!
# Cursors

A text is read from left to right by a cursor that knows how many bytes lie behind it, so that
whatever is wrong can be pointed at. A simple value, which is neither an array nor an object, is
read as a whole. A text inside quotes is either read, and then its escapes must denote
characters, or passed over, and then they need only be written properly.
-/

namespace AssignmentGrid.Json

/-- Something that is wrong, and the number of bytes up to it. -/
structure Offence where
  cause : DecodeError
  bytes : Nat
  deriving DecidableEq, Repr

/-- The offence of a text that is not JSON. -/
def Offence.malformed (fault : Fault) (bytes : Nat) : Offence := ⟨.malformed fault, bytes⟩

/-- A place in a text: what follows it, and the number of bytes in front of it. -/
structure Cursor where
  rest : List Char
  bytes : Nat
  deriving DecidableEq, Repr

/-- The number of bytes that characters take up. -/
def bytesOf (cs : List Char) : Nat := (String.ofList cs).utf8ByteSize

namespace Cursor

/-- In front of a text. -/
def start (cs : List Char) : Cursor := ⟨cs, 0⟩

/-- Behind the next characters. -/
def skip (c : Cursor) (count : Nat) : Cursor :=
  ⟨c.rest.drop count, c.bytes + bytesOf (c.rest.take count)⟩

/-- In front of the next character that is not white space. -/
def skipSpace (c : Cursor) : Cursor := c.skip (c.rest.takeWhile Scanner.isSpace).length

/-- The bytes up to and with the first one of the next character, if there is any. -/
def here (c : Cursor) : Nat := if c.rest.isEmpty then c.bytes else c.bytes + 1

/-- The number of characters that follow. -/
def left (c : Cursor) : Nat := c.rest.length

/-- In front of what follows the next character and white space. -/
def next (c : Cursor) : Cursor := (c.skip 1).skipSpace

/-- Behind some characters no more are left than before. -/
theorem left_skip_le (c : Cursor) (count : Nat) : (c.skip count).left ≤ c.left := by
  simp [skip, left]

/-- Behind white space no more characters are left than before. -/
theorem left_skipSpace_le (c : Cursor) : c.skipSpace.left ≤ c.left := c.left_skip_le _

/-- Behind the next character fewer are left. -/
theorem left_skip_one_lt {c : Cursor} (h : c.rest ≠ []) : (c.skip 1).left < c.left := by
  have hpos := List.length_pos_iff.2 h
  simp only [skip, left, List.length_drop]
  omega

/-- Behind the next character and white space fewer are left. -/
theorem left_next_lt {c : Cursor} (h : c.rest ≠ []) : c.next.left < c.left :=
  Nat.lt_of_le_of_lt (left_skipSpace_le _) (left_skip_one_lt h)

end Cursor

/-! ## Words, numbers and texts -/

/-- What keeps a stretch from being read, and the number of bytes up to it. -/
abbrev Slip := Fault × Nat

/-- Read the rest of a word; the number of its characters. -/
def readWord (count : Nat) : List Char → List Char → Except Slip Nat
  | [], _ => .ok count
  | _ :: _, [] => .error (.endInValue, count)
  | expected :: word, c :: cs =>
    if c = expected then readWord (count + 1) word cs else .error (.expectedWord, count + 1)

/-- The UTF-16 unit that the first four characters give as hexadecimal digits. -/
def unit? : List Char → Option Nat
  | a :: b :: c :: d :: _ => do
    let a ← Scanner.hexValue? a
    let b ← Scanner.hexValue? b
    let c ← Scanner.hexValue? c
    let d ← Scanner.hexValue? d
    return ((a * 16 + b) * 16 + c) * 16 + d
  | _ => none

/-- Why there is no unit, with `bytes` in front of where it should be: four bytes are looked at
together, which the text may be too short for. -/
def unitSlip (bytes : Nat) (cs : List Char) : Slip :=
  if bytesOf cs < 4 then (.endInText, bytes + bytesOf cs) else (.badEscape, bytes + 4)

/-- Read a text behind its opening quote, of which `done` has been read: what it says, last
character first, and the number of characters up to behind the closing quote. -/
def readText (done : List Char) (count bytes : Nat) (cs : List Char) :
    Except Slip (List Char × Nat) :=
  match cs with
  | [] => .error (.endInText, bytes)
  | '\"' :: _ => .ok (done, count + 1)
  | ['\\'] => .error (.endInText, bytes + 1)
  | '\\' :: 'u' :: cs =>
    match unit? cs with
    | none => .error (unitSlip (bytes + 2) cs)
    | some unit =>
      if isLow unit then .error (.loneSurrogate, bytes + 6)
      else if !isHigh unit then
        readText (Char.ofNat unit :: done) (count + 6) (bytes + 6) (cs.drop 4)
      else
        match cs.drop 4 with
        | [] => .error (.endInText, bytes + 6)
        | ['\\'] => .error (.endInText, bytes + 7)
        | '\\' :: 'u' :: more =>
          match unit? more with
          | none => .error (unitSlip (bytes + 8) more)
          | some low =>
            if isLow low then
              let c := Char.ofNat (0x10000 + (unit - 0xD800) * 0x400 + (low - 0xDC00))
              readText (c :: done) (count + 12) (bytes + 12) (cs.drop 10)
            else .error (.loneSurrogate, bytes + 12)
        | '\\' :: _ => .error (.brokenPair, bytes + 8)
        | _ => .error (.brokenPair, bytes + 7)
  | '\\' :: c :: cs =>
    match Scanner.escaped? c with
    | some e => readText (e :: done) (count + 2) (bytes + 2) cs
    | none => .error (.badEscape, bytes + 2)
  | c :: cs =>
    if c.toNat < 0x20 then .error (.controlCharacter, bytes + 1)
    else readText (c :: done) (count + 1) (bytes + c.utf8Size) cs
  termination_by cs.length

/-- Pass over a text behind its opening quote: the number of characters up to behind the closing
quote. -/
def passText (count bytes : Nat) (cs : List Char) : Except Slip Nat :=
  match cs with
  | [] => .error (.endInText, bytes)
  | '\"' :: _ => .ok (count + 1)
  | ['\\'] => .error (.endInText, bytes + 1)
  | '\\' :: 'u' :: cs =>
    match unit? cs with
    | none => .error (unitSlip (bytes + 2) cs)
    | some _ => passText (count + 6) (bytes + 6) (cs.drop 4)
  | '\\' :: c :: cs =>
    if (Scanner.escaped? c).isSome then passText (count + 2) (bytes + 2) cs
    else .error (.badEscape, bytes + 2)
  | c :: cs =>
    if c.toNat < 0x20 then .error (.controlCharacter, bytes)
    else passText (count + 1) (bytes + c.utf8Size) cs
  termination_by cs.length

/-- Read a number whose first character has begun it: what it denotes and its characters. A
number that exceeds every double is left where that is known. -/
def readNumber (scan : NumberScan) (cs : List Char) : Except Slip (Number × Nat) := do
  let (text, count) ← scan.take 1 cs
  match Number.ofText text with
  | some n => return (n, count)
  | none => throw (.numberOutOfRange, count - Number.charsLeft text)

/-- Pass over a number whose first character has begun it: its characters. A number that the text
cuts short is none. -/
def passNumber (scan : NumberScan) (cs : List Char) : Except Slip Nat :=
  match scan.take 1 cs with
  | .ok (_, count) => .ok count
  | .error (.endInValue, bytes) => .error (.badNumber, bytes)
  | .error slip => .error slip

namespace Cursor

/-- A slip in what follows, as an offence. -/
def slipped {α : Type} (c : Cursor) : Except Slip α → Except Offence α
  | .ok a => .ok a
  | .error (fault, bytes) => .error (.malformed fault (c.bytes + bytes))

/-- The word that a character begins: what it denotes and its further characters. -/
def word? (c : Char) : Option (Json × List Char) :=
  match c with
  | 'n' => some (.null, ['u', 'l', 'l'])
  | 't' => some (.bool true, ['r', 'u', 'e'])
  | 'f' => some (.bool false, ['a', 'l', 's', 'e'])
  | _ => none

/-- Read a simple value: what it denotes and the number of its characters. An array or object
counts as empty and is not entered. -/
def readSimple (c : Cursor) : Except Offence (Json × Nat) :=
  match c.rest with
  | [] => .error (.malformed .endInValue c.bytes)
  | '[' :: _ => .ok (.array [], 0)
  | '\x7b' :: _ => .ok (.object [], 0)
  | '\"' :: cs =>
    c.slipped ((readText [] 1 1 cs).map fun (done, n) => (.string (String.ofList done.reverse), n))
  | x :: cs =>
    match word? x with
    | some (value, letters) => c.slipped ((readWord 1 letters cs).map fun n => (value, n))
    | none =>
      match NumberScan.start? x with
      | some scan => c.slipped ((readNumber scan cs).map fun (n, count) => (.number n, count))
      | none => .error (.malformed .expectedValue c.here)

/-- Pass over a simple value: the number of its characters. -/
def passSimple (c : Cursor) : Except Offence Nat :=
  match c.rest with
  | [] => .error (.malformed .endInValue c.bytes)
  | '\"' :: cs => c.slipped (passText 1 1 cs)
  | x :: cs =>
    match word? x with
    | some (_, letters) => c.slipped (readWord 1 letters cs)
    | none =>
      match NumberScan.start? x with
      | some scan => c.slipped (passNumber scan cs)
      | none => .error (.malformed .expectedValue c.here)

end Cursor

end AssignmentGrid.Json
