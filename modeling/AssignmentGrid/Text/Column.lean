/-!
# Columns of fixed width

Widths count code points. A column text that is too short is padded with spaces; a label that is
too long is cut and marked by an ellipsis in its last place.
-/

namespace AssignmentGrid.Text

/-- Spaces in front, up to `width`. A longer text is kept whole. -/
def alignRight (width : Nat) (cs : List Char) : List Char :=
  List.replicate (width - cs.length) ' ' ++ cs

/-- Spaces at the end, up to `width`. A longer text is kept whole. -/
def alignLeft (width : Nat) (cs : List Char) : List Char :=
  cs ++ List.replicate (width - cs.length) ' '

/-- The text in exactly `width` places: padded at the end, or cut and marked by an ellipsis. -/
def fit (width : Nat) (cs : List Char) : List Char :=
  if cs.length ≤ width then alignLeft width cs else cs.take (width - 1) ++ ['…']

/-- Padding in front never cuts. -/
@[simp] theorem length_alignRight (width : Nat) (cs : List Char) :
    (alignRight width cs).length = max width cs.length := by
  simp [alignRight]; omega

/-- Padding at the end never cuts. -/
@[simp] theorem length_alignLeft (width : Nat) (cs : List Char) :
    (alignLeft width cs).length = max width cs.length := by
  simp [alignLeft]; omega

/-- A fitted label fills its column exactly. -/
theorem length_fit {width : Nat} (h : 0 < width) (cs : List Char) :
    (fit width cs).length = width := by
  by_cases hle : cs.length ≤ width
  · simp [fit, hle]
  · simp [fit, hle]; omega

end AssignmentGrid.Text
