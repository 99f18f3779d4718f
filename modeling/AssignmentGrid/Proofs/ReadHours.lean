import AssignmentGrid.CellEdit
import AssignmentGrid.Proofs.HoursBounds
import AssignmentGrid.Proofs.IntegerNames

/-!
# Hours read back

An edit begins with the text of the hours that a cell shows. Typed as it stands, this text gives the
same hours again: no blank is trimmed from it, it is read as the number that was written, and hours
that a cell may hold are left as they are when they are brought into the bounds of a cell. Whole
hours are written as an integer, which loses nothing but the sign of a zero.
-/

namespace AssignmentGrid

namespace Decimal

/-! ### Reading integers -/

theorem splitDigits_of_all {cs : List Char} (h : ∀ c ∈ cs, c.isDigit = true) :
    splitDigits cs = (cs, []) := by
  rw [splitDigits, List.takeWhile_eq_self_iff.mpr h, List.dropWhile_eq_nil_iff.mpr h]

/-- A text that begins with a digit has no sign. -/
theorem splitSign_of_isDigit {d : Char} (h : d.isDigit = true) (cs : List Char) :
    splitSign (d :: cs) = (false, d :: cs) := by
  unfold splitSign
  split
  · next hplus => cases hplus; cases h
  · next hminus => cases hminus; cases h
  · rfl

theorem toLower_of_isDigit {d : Char} (h : d.isDigit = true) : d.toLower = d := by
  have hdigit : d.toNat ≤ 57 := (Char.isDigit_iff_toNat.mp h).2
  apply dif_neg
  rintro ⟨hletter, -⟩
  have hupper : 65 ≤ d.toNat := UInt32.le_iff_toNat_le.mp hletter
  omega

/-- A run of digits is read as the double nearest to the number that it denotes. -/
theorem readMagnitude_of_all {cs : List Char} (hcs : cs ≠ []) (h : ∀ c ∈ cs, c.isDigit = true) :
    readMagnitude cs = some (nearestFloat (natOfDigits cs) 0) := by
  obtain ⟨d, ds, rfl⟩ := List.exists_cons_of_ne_nil hcs
  have hd : d.isDigit = true := h d List.mem_cons_self
  -- a word begins with a letter
  have hword {first : Char} (hfirst : first.isDigit = false) (rest : List Char) :
      (d :: ds).map Char.toLower ≠ first :: rest := by
    intro heq
    have hhead : d.toLower = first := (List.cons.inj heq).1
    rw [toLower_of_isDigit hd] at hhead
    rw [← hhead, hd] at hfirst
    cases hfirst
  unfold readMagnitude
  dsimp only
  rw [splitDigits_of_all h, if_neg (not_or.mpr ⟨hword rfl _, hword rfl _⟩), if_neg (hword rfl _)]
  simp [readExponent]

/-- A number of 64 bits is far from the end of the range of doubles. -/
theorem nearestFloat_zero {n : Nat} (h : n < 2 ^ 64) : nearestFloat n 0 = Float.ofNat n := by
  unfold nearestFloat
  by_cases hzero : n = 0
  · rw [if_pos hzero, hzero]
    rfl
  · have hlength : (Nat.toDigits 10 n).length ≤ 20 :=
      (Nat.length_toDigits_le_iff (by decide) (by decide)).mpr (h.trans (by decide))
    dsimp only
    rw [if_neg hzero, if_neg (by omega), if_neg (by omega)]
    rfl

/-- The digits of a number of 64 bits are read as the double nearest to it. -/
theorem readFloat_toDigits {n : Nat} (h : n < 2 ^ 64) :
    readFloat (Nat.toDigits 10 n) = some (Float.ofNat n) := by
  have hdigits (c : Char) (hc : c ∈ Nat.toDigits 10 n) : c.isDigit = true :=
    Nat.isDigit_of_mem_toDigits (by decide) (by decide) hc
  have hsign : splitSign (Nat.toDigits 10 n) = (false, Nat.toDigits 10 n) := by
    obtain ⟨d, ds, hcons⟩ := List.exists_cons_of_ne_nil (Nat.toDigits_ne_nil (b := 10) (n := n))
    rw [hcons] at hdigits ⊢
    exact splitSign_of_isDigit (hdigits d List.mem_cons_self) ds
  unfold readFloat
  rw [hsign]
  dsimp only
  rw [readMagnitude_of_all Nat.toDigits_ne_nil hdigits, natOfDigits_toDigits, nearestFloat_zero h]
  rfl

/-! ### Characters of a number -/

theorem Digits.isDigit_ofScaled {count : Nat} {exponent : Int} {c : Char}
    (hc : c ∈ (ofScaled count exponent).digits) : c.isDigit = true := by
  have hmem : c ∈ ((Nat.toDigits 10 count).reverse.dropWhile (· == '0')).reverse := hc
  have hall : c ∈ (Nat.toDigits 10 count).reverse :=
    (List.dropWhile_suffix _).mem (List.mem_reverse.mp hmem)
  exact Nat.isDigit_of_mem_toDigits (by decide) (by decide) (List.mem_reverse.mp hall)

/-- A number with its point in place is made of digits and the point. -/
theorem Digits.mem_positional {d : Digits} (hd : ∀ c ∈ d.digits, c.isDigit = true)
    {keepFraction : Bool} {c : Char} (hc : c ∈ d.positional keepFraction) :
    c.isDigit = true ∨ c = '.' := by
  have hzeros {n : Nat} (hc : c ∈ List.replicate n '0') : c.isDigit = true := by
    rw [List.eq_of_mem_replicate hc]
    rfl
  unfold positional at hc
  split at hc
  · simp only [List.mem_cons, List.mem_append] at hc
    rcases hc with rfl | rfl | hc | hc
    · exact .inl rfl
    · exact .inr rfl
    · exact .inl (hzeros hc)
    · exact .inl (hd c hc)
  · split at hc
    · simp only [List.mem_append] at hc
      rcases hc with (hc | hc) | hc
      · exact .inl (hd c hc)
      · exact .inl (hzeros hc)
      · cases keepFraction with
        | true =>
          rcases List.mem_cons.mp hc with rfl | hc
          · exact .inr rfl
          · rw [List.mem_singleton.mp hc]
            exact .inl rfl
        | false => cases hc
    · simp only [List.mem_append, List.mem_cons] at hc
      rcases hc with hc | rfl | hc
      · exact .inl (hd c (List.mem_of_mem_take hc))
      · exact .inr rfl
      · exact .inl (hd c (List.mem_of_mem_drop hc))

end Decimal

namespace Hours

/-- The size of hours is written with digits and a point. -/
theorem mem_magnitude {x : Float} {c : Char} (hc : c ∈ layout.magnitude x) :
    c.isDigit = true ∨ c = '.' := by
  unfold Decimal.Layout.magnitude at hc
  split at hc
  · rw [List.mem_singleton.mp hc]
    exact .inl rfl
  · exact Decimal.Digits.mem_positional (fun _ hd ↦ Decimal.Digits.isDigit_ofScaled hd) hc

/-- Hours are written without blanks. -/
theorem not_isBlank_of_mem_render (value : Float) :
    ∀ c ∈ layout.render value, Text.isBlank c = false := by
  have hword {cs : List Char} (h : cs.all (!Text.isBlank ·) = true) :
      ∀ c ∈ cs, Text.isBlank c = false := by
    simpa using h
  have hsign : ∀ c ∈ if Decimal.isNegative value then ['-'] else [], Text.isBlank c = false := by
    split
    · exact hword rfl
    · nofun
  unfold Decimal.Layout.render
  split
  · exact hword rfl
  · dsimp only
    split
    · exact List.forall_mem_append.mpr ⟨hsign, hword rfl⟩
    · refine List.forall_mem_append.mpr ⟨hsign, fun c hc ↦ ?_⟩
      rcases mem_magnitude hc with hdigit | rfl
      · exact Text.isBlank_eq_false_of_isDigit hdigit
      · rfl

/-! ### Hours as they are written -/

/-- What is assumed about hours that are not shown as an integer: they are read back from what is
written. -/
def IsReadBack (value : Float) : Prop :=
  isWhole value = false → Decimal.readFloat (layout.render value) = some value

variable {value : Float}

/-- Whole hours that are not below zero are written as the digits of their whole part. -/
theorem text_of_isWhole (h : isWhole value = true) (hnonneg : ¬ value < 0) :
    text value = Nat.toDigits 10 (wholePart value) := by
  unfold text
  rw [if_pos h, if_neg hnonneg]
  rfl

/-- Whole hours that are not below zero are the same number as their whole part. -/
theorem sameNumber_wholePart (h : isWhole value = true) (hnonneg : ¬ value < 0) :
    SameNumber (Float.ofNat (wholePart value)) value := by
  rw [isWhole, Bool.and_eq_true] at h
  exact SameNumber.trans (.inl h.1) (.abs hnonneg)

/-- Hours that are not below zero are read back from their text, but for the sign of a zero. -/
theorem exists_readFloat_text (hread : IsReadBack value) (hnonneg : ¬ value < 0) :
    ∃ x, Decimal.readFloat (Text.trim (text value)) = some x ∧ SameNumber x value := by
  by_cases hwhole : isWhole value = true
  · have hblank : ∀ c ∈ Nat.toDigits 10 (wholePart value), Text.isBlank c = false :=
      fun _ hc ↦ Text.isBlank_eq_false_of_isDigit
        (Nat.isDigit_of_mem_toDigits (by decide) (by decide) hc)
    rw [text_of_isWhole hwhole hnonneg, Text.trim_of_all hblank]
    exact ⟨_, Decimal.readFloat_toDigits (UInt64.toNat_lt _),
      sameNumber_wholePart hwhole hnonneg⟩
  · have htext : text value = layout.render value := if_neg hwhole
    rw [htext, Text.trim_of_all (not_isBlank_of_mem_render value)]
    exact ⟨value, hread (Bool.eq_false_iff.mpr hwhole), .refl value⟩

/-- The text of hours within the bounds, typed as it stands, gives the same hours. -/
theorem InBounds.sameNumber_ofTyped {cap : Float} (h : InBounds cap value)
    (hread : IsReadBack value) : SameNumber (ofTyped cap (String.ofList (text value))) value := by
  obtain ⟨x, hx, hsame⟩ := exists_readFloat_text hread (float_not_lt_of_le h.nonneg)
  unfold ofTyped
  rw [String.toList_ofList, hx, Option.getD_some, clamp_of_inBounds (h.congr hsame)]
  exact hsame

end Hours

end AssignmentGrid
