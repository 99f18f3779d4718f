/-!
# Ranges of characters

The members of a class of characters are listed in rows of text: code points in hexadecimal
digits, alone or as a range with its two ends, divided by spaces.
-/

namespace AssignmentGrid.Text

/-- A range of code points with both ends. -/
structure CharRange where
  first : Nat
  last : Nat
  deriving DecidableEq, Repr

namespace CharRange

/-- Whether a character lies in a range. -/
def contains (r : CharRange) (c : Char) : Bool := r.first ≤ c.toNat && c.toNat ≤ r.last

/-- What a hexadecimal digit in small letters counts. -/
def digit (c : Char) : Nat :=
  if c.isDigit then c.toNat - '0'.toNat else c.toNat - 'a'.toNat + 10

/-- The number that hexadecimal digits denote. -/
def number (cs : List Char) : Nat := cs.foldl (fun n c => 16 * n + digit c) 0

/-- A range from its text. -/
def ofText (cs : List Char) : CharRange :=
  let first := cs.takeWhile (· != '-')
  match cs.dropWhile (· != '-') with
  | _ :: last => ⟨number first, number last⟩
  | [] => ⟨number first, number first⟩

end CharRange

/-- The pieces of a text between the given separators, `current` being what has been read of the
first one. -/
def piecesFrom (separator : Char) (current : List Char) : List Char → List (List Char)
  | [] => [current]
  | c :: cs =>
    if c = separator then current :: piecesFrom separator [] cs
    else piecesFrom separator (current ++ [c]) cs

/-- The pieces of a text between the given separators. -/
def pieces (separator : Char) (cs : List Char) : List (List Char) := piecesFrom separator [] cs

/-- The entries of rows of text, divided by spaces. -/
def entries (rows : List String) : List (List Char) := rows.flatMap fun row => pieces ' ' row.toList

/-- The ranges that rows of text list. -/
def charRanges (rows : List String) : List CharRange := (entries rows).map CharRange.ofText

/-- Whether a character lies in one of several ranges. -/
def inRanges (ranges : List CharRange) (c : Char) : Bool := ranges.any fun r => r.contains c

end AssignmentGrid.Text
