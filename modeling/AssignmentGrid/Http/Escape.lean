/-!
# Escapes in addresses

A character that may not stand where it stands is written as the escapes of its bytes, each a
percent sign and two hexadecimal digits. Which visible ASCII characters may stand depends on the
part of the address; all others never may.
-/

namespace AssignmentGrid.Http

/-- A byte in an escape: two hexadecimal digits behind a percent sign. -/
def escapeByte (b : UInt8) : List Char :=
  ['%', (Nat.digitChar (b.toNat / 16)).toUpper, (Nat.digitChar (b.toNat % 16)).toUpper]

/-- The part of an address in which a character stands. -/
inductive Part where
  | user
  | path
  /-- A path that is not divided by slashes, or a host that is not looked up. -/
  | plain
  /-- The query behind a path on the web, and behind any other. -/
  | webQuery
  | query
  | fragment
  deriving DecidableEq, Repr

/-- The visible ASCII characters that may not stand in a part. -/
def Part.barred : Part → List Char
  | plain => []
  | fragment => [' ', '\"', '<', '>', '\x60']
  | query => [' ', '\"', '#', '<', '>']
  | webQuery => [' ', '\"', '#', '<', '>', '\'']
  | path => [' ', '\"', '<', '>', '\x60', '#', '?', '\x7b', '\x7d']
  | user =>
    [' ', '\"', '<', '>', '\x60', '#', '?', '\x7b', '\x7d', '/', ':', ';', '=', '@', '[', '\\', ']',
      '^', '|']

/-- A character as it is written in a part: as itself, or as the escapes of its bytes. -/
def escapeChar (part : Part) (c : Char) : List Char :=
  if 0x20 ≤ c.toNat && c.toNat < 0x7F && !part.barred.contains c then [c]
  else (String.singleton c).toUTF8.toList.flatMap escapeByte

/-- A text as it is written in a part. -/
def escape (part : Part) (cs : List Char) : List Char := cs.flatMap (escapeChar part)

/-- What a hexadecimal digit counts. -/
def hexDigit? (c : Char) : Option Nat :=
  if c.isDigit then some (c.toNat - '0'.toNat)
  else if 'a' ≤ c ∧ c ≤ 'f' then some (c.toNat - 'a'.toNat + 10)
  else if 'A' ≤ c ∧ c ≤ 'F' then some (c.toNat - 'A'.toNat + 10)
  else none

/-- The bytes of a text in which escapes stand for bytes. A percent sign without two digits
stands for itself. -/
def unescapeBytes : List Char → List UInt8
  | '%' :: a :: b :: cs =>
    match hexDigit? a, hexDigit? b with
    | some high, some low => UInt8.ofNat (16 * high + low) :: unescapeBytes cs
    | _, _ => '%'.toUInt8 :: unescapeBytes (a :: b :: cs)
  | c :: cs => (String.singleton c).toUTF8.toList ++ unescapeBytes cs
  | [] => []

/-- The text that is meant by a text with escapes; `none` if its bytes are no text. -/
def unescape? (cs : List Char) : Option (List Char) :=
  (String.fromUTF8? ⟨(unescapeBytes cs).toArray⟩).map String.toList

end AssignmentGrid.Http
