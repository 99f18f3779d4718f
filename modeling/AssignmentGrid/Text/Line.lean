import AssignmentGrid.Text.Blank

/-!
# Lines of a text

A line ends at a line feed; a carriage return right before the line feed belongs to the ending. A
text that ends in a line feed has no further, empty line. Lines that hold nothing but a `//` comment
can be taken out before the rest is read. Specification `SPEC_FULL.md:288–289`.
-/

namespace AssignmentGrid.Text

/-- A line without the carriage return of its ending. -/
def dropReturn (line : List Char) : List Char :=
  match line.getLast? with
  | some '\r' => line.dropLast
  | _ => line

/-- The lines of a text, `current` being what has been read of the first one. A last line without
a line feed counts only if it is not empty, and keeps its carriage return. -/
def linesFrom (current : List Char) : List Char → List (List Char)
  | [] => if current.isEmpty then [] else [current]
  | c :: cs =>
    if c = '\n' then dropReturn current :: linesFrom [] cs else linesFrom (current ++ [c]) cs

/-- The lines of a text, without their endings. -/
def lines (cs : List Char) : List (List Char) := linesFrom [] cs

/-- Lines joined by line feeds, with none after the last. -/
def unlines : List (List Char) → List Char
  | [] => []
  | [line] => line
  | line :: more => line ++ '\n' :: unlines more

/-- A line that holds nothing but a comment: its first characters that are not blank are `//`. -/
def isComment (line : List Char) : Bool :=
  match trim line with
  | '/' :: '/' :: _ => true
  | _ => false

/-- The text without its comment lines. Specification `SPEC_FULL.md:288–289`. -/
def dropComments (cs : List Char) : List Char :=
  unlines ((lines cs).filter fun line => !isComment line)

/-- Nothing has no lines. -/
@[simp] theorem lines_nil : lines [] = [] := rfl

/-- A line feed after what has been read ends the first line. -/
@[simp] theorem linesFrom_newline (current cs : List Char) :
    linesFrom current ('\n' :: cs) = dropReturn current :: linesFrom [] cs := rfl

/-- Text before a line feed becomes part of the first line. -/
theorem linesFrom_append {line : List Char} (h : '\n' ∉ line) (current cs : List Char) :
    linesFrom current (line ++ cs) = linesFrom (current ++ line) cs := by
  induction line generalizing current with
  | nil => simp
  | cons c rest ih =>
    have hc : c ≠ '\n' := by rintro rfl; simp at h
    have hrest : '\n' ∉ rest := by
      intro hmem
      exact h (List.mem_cons_of_mem _ hmem)
    simp [linesFrom, hc, ih hrest]

end AssignmentGrid.Text
