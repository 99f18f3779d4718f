import AssignmentGrid.Json.Decode

/-!
# Integers as values and as names

A signed 64-bit integer is written as a number, or as the name of a member, in one way only, and
either is read back as the same integer.
-/

namespace AssignmentGrid

/-! ### Digits -/

namespace Decimal

theorem natOfDigits_toDigits (n : Nat) : natOfDigits (Nat.toDigits 10 n) = n := by
  rw [natOfDigits, ← Nat.ofDigitChars_eq_foldl]
  exact Nat.ofDigitChars_toDigits (by decide) (by decide)

theorem head?_toDigits_ne {n : Nat} (h : 0 < n) : (Nat.toDigits 10 n).head? ≠ some '0' := by
  induction n using Nat.strongRecOn with
  | ind n ih =>
    by_cases hsmall : n < 10
    · rw [Nat.toDigits_of_lt_base hsmall, List.head?_cons]
      intro hzero
      have hdigit := Nat.toNat_digitChar_of_lt_ten hsmall
      rw [Option.some.inj hzero] at hdigit
      have : ('0' : Char).toNat = 48 := rfl
      omega
    · have hmore : 0 < n / 10 := by omega
      rw [Nat.toDigits_of_base_le (by decide) (by omega)]
      cases hfirst : Nat.toDigits 10 (n / 10) with
      | nil => exact absurd hfirst Nat.toDigits_ne_nil
      | cons d ds =>
        have hhead := ih (n / 10) (by omega) hmore
        rwa [hfirst] at hhead

/-- The digits of a number that is not zero do not begin with a zero. -/
theorem exists_toDigits_eq {n : Nat} (h : 0 < n) :
    ∃ d ds, Nat.toDigits 10 n = d :: ds ∧ d ≠ '0' ∧ d.isDigit = true ∧
      ∀ c ∈ ds, c.isDigit = true := by
  have hdigit (c : Char) (hc : c ∈ Nat.toDigits 10 n) : c.isDigit = true :=
    Nat.isDigit_of_mem_toDigits (by decide) (by decide) hc
  have hhead := head?_toDigits_ne h
  cases hdigits : Nat.toDigits 10 n with
  | nil => exact absurd hdigits Nat.toDigits_ne_nil
  | cons d ds =>
    rw [hdigits] at hdigit hhead
    refine ⟨d, ds, rfl, ?_, hdigit d List.mem_cons_self,
      fun c hc ↦ hdigit c (List.mem_cons_of_mem _ hc)⟩
    rintro rfl
    exact hhead rfl

end Decimal

namespace Json

/-! ### Numbers -/

theorem Number.toInt64_ofInt64 (n : Int64) : (Number.ofInt64 n).toInt64 = .ok n := by
  unfold Number.ofInt64
  split
  · rfl
  · next hnonneg =>
    have hword : n.toUInt64.toNat < 0x8000000000000000 := by
      rw [Int64.toNat_toUInt64_of_le (Int64.not_lt.mp hnonneg)]
      exact n.toNatClampNeg_lt
    rw [Number.toInt64, if_pos hword, Int64.toInt64_toUInt64]

/-- A signed 64-bit integer that is written as a number is read back. -/
@[simp] theorem toInt64_ofInt64 (n : Int64) : (ofInt64 n).toInt64 = .ok n :=
  Number.toInt64_ofInt64 n

@[simp] theorem toOption_ofInt64 (n : Int64) : (ofInt64 n).toOption toInt64 = .ok (some n) := by
  rw [show (ofInt64 n).toOption toInt64 = (ofInt64 n).toInt64.map some from rfl, toInt64_ofInt64]
  rfl

/-- A finite double that is written as a number is read back. -/
theorem toFloat_ofFloat {x : Float} (h : x.isFinite = true) : (ofFloat x).toFloat = .ok x := by
  rw [ofFloat, if_pos h]
  rfl

/-! ### Names -/

/-- The parts of the text of an integer. -/
def integerText (n : Int) : NumberText := ⟨decide (n < 0), Nat.toDigits 10 n.natAbs, [], none⟩

/-- A scan among the digits in front of the point takes all digits. -/
theorem NumberScan.take_digits {ds : List Char} (h : ∀ c ∈ ds, c.isDigit = true)
    (t : NumberText) (count : Nat) :
    NumberScan.take ⟨.whole, t⟩ count ds =
      .ok ({ t with whole := t.whole ++ ds }, count + ds.length) := by
  induction ds generalizing t count with
  | nil =>
    rw [List.append_nil]
    rfl
  | cons d ds ih =>
    have hstep : NumberScan.step ⟨.whole, t⟩ d =
        .more ⟨.whole, { t with whole := t.whole ++ [d] }⟩ :=
      if_pos (h d List.mem_cons_self)
    rw [NumberScan.take, hstep]
    dsimp only
    rw [ih fun c hc ↦ h c (List.mem_cons_of_mem _ hc)]
    simp [Nat.add_assoc, Nat.add_comm 1]

/-- The characters of an integer are scanned as a number, and none of them is left. -/
theorem scan_intChars (n : Int) :
    ∃ c cs scan, Decimal.intChars n = c :: cs ∧ NumberScan.start? c = some scan ∧
      scan.take 1 cs = .ok (integerText n, (Decimal.intChars n).length) := by
  by_cases hzero : n = 0
  · subst hzero
    exact ⟨'0', [], ⟨.zero, ⟨false, ['0'], [], none⟩⟩, rfl, rfl, rfl⟩
  obtain ⟨d, ds, hdigits, hd, hdigit, hds⟩ :=
    Decimal.exists_toDigits_eq (Int.natAbs_pos.mpr hzero)
  by_cases hneg : n < 0
  · have hchars : Decimal.intChars n = '-' :: d :: ds := by
      rw [Decimal.intChars, if_pos hneg, hdigits, List.singleton_append]
    have hstep : NumberScan.step ⟨.sign, ⟨true, [], [], none⟩⟩ d =
        .more ⟨.whole, ⟨true, [d], [], none⟩⟩ := by
      simp [NumberScan.step, hd, hdigit]
    refine ⟨'-', d :: ds, ⟨.sign, ⟨true, [], [], none⟩⟩, hchars, rfl, ?_⟩
    rw [NumberScan.take, hstep]
    dsimp only
    have hlength : 1 + 1 + ds.length = ds.length + 1 + 1 := by omega
    rw [NumberScan.take_digits hds, hlength, hchars, integerText, hdigits, decide_eq_true hneg]
    rfl
  · have hchars : Decimal.intChars n = d :: ds := by
      rw [Decimal.intChars, if_neg hneg, hdigits, List.nil_append]
    have hsign : d ≠ '-' := by
      rintro rfl
      cases hdigit
    have hstart : NumberScan.start? d = some ⟨.whole, ⟨false, [d], [], none⟩⟩ := by
      simp [NumberScan.start?, hsign, hd, hdigit]
    refine ⟨d, ds, _, hchars, hstart, ?_⟩
    rw [NumberScan.take_digits hds, Nat.add_comm, hchars, integerText, hdigits,
      decide_eq_false hneg]
    rfl

/-- The text of a signed 64-bit integer denotes that integer. -/
theorem Number.ofText_integerText (n : Int64) :
    Number.ofText (integerText n.toInt) = some (Number.ofInt64 n) := by
  have hlow : -2 ^ 63 ≤ n.toInt := n.le_toInt
  have hhigh : n.toInt < 2 ^ 63 := n.toInt_lt
  have hsmall : n.toInt.natAbs < UInt64.size := by
    rw [UInt64.size]
    omega
  have hneg : n < 0 ↔ n.toInt < 0 := by
    rw [Int64.lt_iff_toInt_lt, Int64.toInt_zero]
  unfold Number.ofText Number.ofInt64 integerText
  rw [Decimal.natOfDigits_toDigits]
  by_cases h : n.toInt < 0
  · have hvalue : Int64.ofInt (-(n.toInt.natAbs : Int)) = n := by
      rw [show -(n.toInt.natAbs : Int) = n.toInt by omega, Int64.ofInt_toInt]
    have hrange : ¬(n.toInt.natAbs = 0 ∨ 0x8000000000000000 < n.toInt.natAbs) := by omega
    simp only [List.isEmpty_nil, Option.isNone_none, Bool.and_self, hsmall, h, hneg, hrange, hvalue,
      decide_true, Bool.not_true, Bool.false_eq_true, if_true, if_false]
  · have hvalue : UInt64.ofNat n.toInt.natAbs = n.toUInt64 := by
      have hnonneg : 0 ≤ n := Int64.not_lt.mp fun hn ↦ h (hneg.mp hn)
      have hword : n.toUInt64.toNat = n.toInt.natAbs := by
        rw [Int64.toNat_toUInt64_of_le hnonneg, Int64.toNatClampNeg]
        omega
      rw [← hword, UInt64.ofNat_toNat]
    simp only [List.isEmpty_nil, Option.isNone_none, Bool.and_self, hsmall, h, hneg, hvalue,
      decide_true, decide_false, Bool.not_false, if_true, if_false]

/-- A signed 64-bit integer that is written as the name of a member is read back. -/
theorem int64OfKey_intText (n : Int64) : int64OfKey (Decimal.intText n.toInt) = .ok n := by
  obtain ⟨c, cs, scan, hchars, hstart, htake⟩ := scan_intChars n.toInt
  have hlist : (Decimal.intText n.toInt).toList = c :: cs := by
    rw [Decimal.intText, String.toList_ofList, hchars]
  have hlength : (Decimal.intChars n.toInt).length = (Decimal.intText n.toInt).length := by
    rw [Decimal.intText, String.length_ofList]
  unfold int64OfKey
  rw [hlist]
  dsimp only
  rw [hstart]
  dsimp only
  rw [htake]
  dsimp only
  rw [Number.ofText_integerText]
  dsimp only
  rw [Number.toInt64_ofInt64]
  exact if_pos hlength

end Json

end AssignmentGrid
