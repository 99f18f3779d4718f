/-!
# Places in a text

A place is named by the number of its line, from one on, and the number of bytes that stand
before it on that line, in UTF-8.
-/

namespace AssignmentGrid.Text

/-- A place in a text. -/
structure Place where
  line : Nat
  column : Nat
  deriving DecidableEq, Repr

namespace Place

/-- In front of a text. -/
def start : Place := ⟨1, 0⟩

/-- The place some bytes further on, `cs` being what follows. -/
def advance (p : Place) (bytes : Nat) : List Char → Place
  | [] => p
  | c :: cs =>
    if bytes < c.utf8Size then { p with column := p.column + bytes }
    else if c = '\n' then advance ⟨p.line + 1, 0⟩ (bytes - c.utf8Size) cs
    else advance { p with column := p.column + c.utf8Size } (bytes - c.utf8Size) cs

/-- The place behind the first bytes of a text. -/
def behind (bytes : Nat) (cs : List Char) : Place := start.advance bytes cs

/-- The wording of a place. -/
def message (p : Place) : String := s!"at line {p.line} column {p.column}"

/-- No bytes lead nowhere. -/
@[simp] theorem advance_zero (p : Place) (cs : List Char) : p.advance 0 cs = p := by
  cases cs with
  | nil => rfl
  | cons c cs => simp [advance, Char.utf8Size_pos c]

end Place

end AssignmentGrid.Text
