import AssignmentGrid.Json.Number

/-!
# Tokens of a JSON text

The scanner reads a text character by character and hands out tokens. Text that is no token ends
the stream with a flaw. A line feed never stands inside a token, which is why a text can be
scanned line by line.
-/

namespace AssignmentGrid.Json

/-- A character of a string as it was written: itself, or a UTF-16 unit in an escape. -/
inductive Piece where
  | char (c : Char)
  | unit (n : Nat)
  deriving DecidableEq, Repr

/-- Whether a UTF-16 unit is the first half of a pair. -/
def isHigh (unit : Nat) : Bool := 0xD800 ≤ unit && unit < 0xDC00

/-- Whether a UTF-16 unit is the second half of a pair. -/
def isLow (unit : Nat) : Bool := 0xDC00 ≤ unit && unit < 0xE000

/-- What keeps a stretch of text from being a token. -/
inductive Flaw where
  /-- A character with which no token begins. -/
  | stray
  /-- Not one of the words `null`, `true` and `false`. -/
  | word
  /-- The text ends inside a word or a number. -/
  | cutShort
  /-- Not a number. -/
  | number
  /-- The text ends inside a string. -/
  | openText
  /-- An unknown escape in a string. -/
  | escape
  /-- A control character in a string. -/
  | control
  deriving DecidableEq, Repr

/-- A token, or the flaw that ends the stream. -/
inductive Token where
  | openBrace
  | closeBrace
  | openBracket
  | closeBracket
  | colon
  | comma
  | null
  | bool (b : Bool)
  | number (t : NumberText)
  | text (pieces : List Piece)
  | flaw (f : Flaw)
  deriving DecidableEq, Repr

/-- Where the scanner stands. -/
inductive Scanner where
  /-- Outside of every token. -/
  | between
  /-- Inside a word that stands for `token`; `left` must follow. -/
  | word (token : Token) (left : List Char)
  /-- Inside a number. -/
  | number (scan : NumberScan)
  /-- Inside a string; `done` is what has been read of it. -/
  | text (done : List Piece)
  /-- After a backslash in a string. -/
  | escape (done : List Piece)
  /-- Among the four hexadecimal digits of an escape; `left` of them are still to come. -/
  | hex (done : List Piece) (value left : Nat)
  /-- Behind a flaw. -/
  | stuck
  deriving DecidableEq, Repr

namespace Scanner

/-- JSON's own white space, which is less than the blank characters. -/
def isSpace (c : Char) : Bool := c == ' ' || c == '\t' || c == '\n' || c == '\r'

/-- Read a character outside of every token. -/
def begin (c : Char) : List Token × Scanner :=
  match c with
  | '\x7b' => ([.openBrace], .between)
  | '\x7d' => ([.closeBrace], .between)
  | '[' => ([.openBracket], .between)
  | ']' => ([.closeBracket], .between)
  | ':' => ([.colon], .between)
  | ',' => ([.comma], .between)
  | '\"' => ([], .text [])
  | 'n' => ([], .word .null ['u', 'l', 'l'])
  | 't' => ([], .word (.bool true) ['r', 'u', 'e'])
  | 'f' => ([], .word (.bool false) ['a', 'l', 's', 'e'])
  | _ =>
    if isSpace c then ([], .between)
    else match NumberScan.start? c with
      | some scan => ([], .number scan)
      | none => ([.flaw .stray], .stuck)

/-- The value of a hexadecimal digit. -/
def hexValue? (c : Char) : Option Nat :=
  if '0' ≤ c ∧ c ≤ '9' then some (c.toNat - '0'.toNat)
  else if 'a' ≤ c ∧ c ≤ 'f' then some (c.toNat - 'a'.toNat + 10)
  else if 'A' ≤ c ∧ c ≤ 'F' then some (c.toNat - 'A'.toNat + 10)
  else none

/-- The character that a one-letter escape stands for. -/
def escaped? (c : Char) : Option Char :=
  match c with
  | '\"' => some '\"'
  | '\\' => some '\\'
  | '/' => some '/'
  | 'b' => some '\x08'
  | 'f' => some '\x0c'
  | 'n' => some '\n'
  | 'r' => some '\r'
  | 't' => some '\t'
  | _ => none

/-- Read one character. -/
def step (s : Scanner) (c : Char) : List Token × Scanner :=
  match s with
  | between => begin c
  | word token left =>
    match left with
    | [] => ([token], .between)
    | expected :: more =>
      if c = expected then
        if more.isEmpty then ([token], .between) else ([], .word token more)
      else ([.flaw .word], .stuck)
  | number scan =>
    match scan.step c with
    | .more scan => ([], .number scan)
    | .bad => ([.flaw .number], .stuck)
    | .stop =>
      let (tokens, next) := begin c
      (.number scan.text :: tokens, next)
  | text done =>
    if c = '\"' then ([.text done], .between)
    else if c = '\\' then ([], .escape done)
    else if c.toNat < 0x20 then ([.flaw .control], .stuck)
    else ([], .text (done ++ [.char c]))
  | escape done =>
    if c = 'u' then ([], .hex done 0 4)
    else match escaped? c with
      | some e => ([], .text (done ++ [.char e]))
      | none => ([.flaw .escape], .stuck)
  | hex done value left =>
    match hexValue? c with
    | none => ([.flaw .escape], .stuck)
    | some digit =>
      let value := 16 * value + digit
      if left ≤ 1 then ([], .text (done ++ [.unit value])) else ([], .hex done value (left - 1))
  | stuck => ([], .stuck)

/-- The end of the text. -/
def finish (s : Scanner) : List Token :=
  match s with
  | between | stuck => []
  | word _ _ => [.flaw .cutShort]
  | number scan => if scan.isComplete then [.number scan.text] else [.flaw .cutShort]
  | text _ | escape _ | hex _ _ _ => [.flaw .openText]

/-- The tokens of the rest of a text. -/
def scan (s : Scanner) : List Char → List Token
  | [] => s.finish
  | c :: cs => (s.step c).1 ++ scan (s.step c).2 cs

end Scanner

/-- The tokens of a text. -/
def tokens (cs : List Char) : List Token := Scanner.between.scan cs

end AssignmentGrid.Json
