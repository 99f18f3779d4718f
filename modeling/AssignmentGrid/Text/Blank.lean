/-!
# Blank characters

The characters with the Unicode property `White_Space`, and trimming by them. Typed hours, week
arguments and the lines of a settings file are trimmed this way. A zero-width space and a byte
order mark are not blank.
-/

namespace AssignmentGrid.Text

/-- The ranges of code points with the property `White_Space`, in ascending order. -/
def blankRanges : List (Nat × Nat) :=
  [(0x09, 0x0D), (0x20, 0x20), (0x85, 0x85), (0xA0, 0xA0), (0x1680, 0x1680), (0x2000, 0x200A),
    (0x2028, 0x2029), (0x202F, 0x202F), (0x205F, 0x205F), (0x3000, 0x3000)]

/-- A character with the property `White_Space`. -/
def isBlank (c : Char) : Bool :=
  blankRanges.any fun r => r.1 ≤ c.toNat && c.toNat ≤ r.2

/-- Drop the blanks in front. -/
def trimStart (cs : List Char) : List Char := cs.dropWhile isBlank

/-- Drop the blanks at the end. -/
def trimEnd (cs : List Char) : List Char := (cs.reverse.dropWhile isBlank).reverse

/-- Drop the blanks at both ends. -/
def trim (cs : List Char) : List Char := trimEnd (trimStart cs)

/-- No character is left of nothing. -/
@[simp] theorem trim_nil : trim [] = [] := rfl

/-- A digit is no blank. -/
theorem isBlank_eq_false_of_isDigit {c : Char} (h : c.isDigit = true) : isBlank c = false := by
  have hbounds : 48 ≤ c.toNat ∧ c.toNat ≤ 57 := Char.isDigit_iff_toNat.mp h
  simp [isBlank, blankRanges]
  omega

/-- A text whose first character is no blank keeps its front. -/
theorem trimStart_cons_of_not_isBlank {c : Char} (h : isBlank c = false) (cs : List Char) :
    trimStart (c :: cs) = c :: cs := by
  simp [trimStart, h]

/-- A text without blanks is left as it is. -/
theorem trim_of_all {cs : List Char} (h : ∀ c ∈ cs, isBlank c = false) : trim cs = cs := by
  have hfront {cs : List Char} (h : ∀ c ∈ cs, isBlank c = false) : trimStart cs = cs := by
    cases cs with
    | nil => rfl
    | cons c rest => exact trimStart_cons_of_not_isBlank (h c List.mem_cons_self) rest
  have hend : cs.reverse.dropWhile isBlank = cs.reverse :=
    hfront fun c hc ↦ h c (List.mem_reverse.mp hc)
  rw [trim, hfront h, trimEnd, hend, List.reverse_reverse]

/-- A blank at the end is trimmed. -/
theorem trim_concat_of_isBlank {c : Char} (h : isBlank c = true) (cs : List Char) :
    trim (cs ++ [c]) = trim cs := by
  unfold trim trimStart
  rw [List.dropWhile_append]
  split
  · next hempty =>
    rw [List.isEmpty_iff.mp hempty]
    simp [h]
  · simp [trimEnd, h]

end AssignmentGrid.Text
