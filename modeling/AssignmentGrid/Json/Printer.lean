import AssignmentGrid.Json.Value

/-!
# Printing JSON

Values are printed on one line without any blanks, or over several lines indented by two spaces.
In a string the quote, the backslash and control characters are escaped, everything else stands
for itself.
-/

namespace AssignmentGrid.Json

/-- A hexadecimal digit. -/
def hexDigit (n : Nat) : Char := (Nat.digitChar n).toLower

/-- A character inside a string. -/
def escape (c : Char) : List Char :=
  if c = '\"' then ['\\', '\"']
  else if c = '\\' then ['\\', '\\']
  else if c = '\x08' then ['\\', 'b']
  else if c = '\t' then ['\\', 't']
  else if c = '\n' then ['\\', 'n']
  else if c = '\x0c' then ['\\', 'f']
  else if c = '\r' then ['\\', 'r']
  else if c.toNat < 0x20 then
    ['\\', 'u', '0', '0', hexDigit (c.toNat / 16), hexDigit (c.toNat % 16)]
  else [c]

/-- A string in quotes. -/
def quoted (s : String) : List Char := '\"' :: (s.toList.flatMap escape ++ ['\"'])

mutual

/-- A value on one line without blanks. -/
def compact : Json → List Char
  | .null => ['n', 'u', 'l', 'l']
  | .bool true => ['t', 'r', 'u', 'e']
  | .bool false => ['f', 'a', 'l', 's', 'e']
  | .number n => n.chars
  | .string s => quoted s
  | .array [] => ['[', ']']
  | .array (item :: more) => '[' :: (compact item ++ compactItems more)
  | .object [] => ['\x7b', '\x7d']
  | .object ((name, value) :: more) =>
    '\x7b' :: (quoted name ++ ':' :: (compact value ++ compactMembers more))

/-- The items of an array behind the first one, and its end. -/
def compactItems : List Json → List Char
  | [] => [']']
  | item :: more => ',' :: (compact item ++ compactItems more)

/-- The members of an object behind the first one, and its end. -/
def compactMembers : List (String × Json) → List Char
  | [] => ['\x7d']
  | (name, value) :: more =>
    ',' :: (quoted name ++ ':' :: (compact value ++ compactMembers more))

end

/-- A new line, indented by `level` steps. -/
def newline (level : Nat) : List Char := '\n' :: List.replicate (2 * level) ' '

mutual

/-- A value over several lines; `level` is how deep it stands. -/
def prettyAt (level : Nat) : Json → List Char
  | .array (item :: more) =>
    '[' :: (newline (level + 1) ++ prettyAt (level + 1) item ++ prettyItems level more)
  | .object ((name, value) :: more) =>
    '\x7b' :: (newline (level + 1) ++ quoted name ++ ':' :: ' ' ::
      (prettyAt (level + 1) value ++ prettyMembers level more))
  | .null => compact .null
  | .bool b => compact (.bool b)
  | .number n => compact (.number n)
  | .string s => compact (.string s)
  | .array [] => compact (.array [])
  | .object [] => compact (.object [])

/-- The items of an array behind the first one, and its end. -/
def prettyItems (level : Nat) : List Json → List Char
  | [] => newline level ++ [']']
  | item :: more =>
    ',' :: (newline (level + 1) ++ prettyAt (level + 1) item ++ prettyItems level more)

/-- The members of an object behind the first one, and its end. -/
def prettyMembers (level : Nat) : List (String × Json) → List Char
  | [] => newline level ++ ['\x7d']
  | (name, value) :: more =>
    ',' :: (newline (level + 1) ++ quoted name ++ ':' :: ' ' ::
      (prettyAt (level + 1) value ++ prettyMembers level more))

end

/-- A value over several lines. -/
def pretty (value : Json) : List Char := prettyAt 0 value

end AssignmentGrid.Json
