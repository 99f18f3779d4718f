import Mathlib

/-!
# Doubles as numbers

Two doubles that differ only in the sign of zero are the same number, and so are two that are no
number at all. The sign of a zero shows in the bits of a sum, never in its number: adding zero
changes no number, adding to the same number gives the same number, and the same number compares in
the same way. A double between zero and one that is finite is finite. The whole part of a double
that is not above a hundred is at most a hundred. The facts are read off the logical model of the
doubles, where a double is unpacked into sign, significand and exponent.
-/

namespace AssignmentGrid

open Float.Model UnpackedFloat

/-! ### Parts -/

/-- Packing an unpacked double gives it back, bit for bit. -/
theorem packed_unpack (m : Float.Model) : Float.Model.pack m.unpack = m := by
  cases m with
  | mk bits valid =>
    simp only [Float.Model.pack, Float.Model.unpack, pack_unpack_of_valid valid]

/-- A double is known from its parts. -/
theorem float_ext {x y : Float} (h : x.toModel.unpack = y.toModel.unpack) : x = y := by
  have hm : x.toModel = y.toModel := by rw [← packed_unpack x.toModel, h, packed_unpack]
  cases x
  cases y
  exact congrArg Float.ofModel hm

/-! ### Numbers -/

/-- Whether doubles are the same number: they compare equal, or both are no number. -/
def SameNumber (x y : Float) : Prop := x == y ∨ (x.isNaN ∧ y.isNaN)

/-- Whether a double is zero, of either sign. -/
def IsZero (x : Float) : Prop := ∃ s, x.toModel.unpack = .zero s

private theorem float_isNaN_iff (x : Float) :
    x.isNaN = true ↔ x.toModel.unpack = .notANumber := by
  change x.toModel.unpack.isNaN = true ↔ _
  exact UnpackedFloat.isNaN_iff

/-- Doubles compare equal when they are the same number with the same bits, or both zero. -/
theorem float_beq_iff (x y : Float) :
    (x == y) = true ↔ (x = y ∧ ¬ x.isNaN = true) ∨ (IsZero x ∧ IsZero y) := by
  have hxy : x = y ↔ x.toModel.unpack = y.toModel.unpack := ⟨fun h ↦ h ▸ rfl, float_ext⟩
  change x.toModel.unpack.beq y.toModel.unpack = true ↔ _
  rw [beq_iff_ne_notANumber_and_eq, float_isNaN_iff, hxy]
  unfold IsZero
  constructor
  · rintro ⟨hx, -, h | ⟨h, h'⟩ | ⟨h, h'⟩⟩
    · exact .inl ⟨h, hx⟩
    · exact .inr ⟨⟨_, h⟩, _, h'⟩
    · exact .inr ⟨⟨_, h⟩, _, h'⟩
  · rintro (⟨h, hx⟩ | ⟨⟨s, hs⟩, t, ht⟩)
    · exact ⟨hx, h ▸ hx, .inl h⟩
    · rw [hs, ht]
      cases s <;> cases t <;> simp

/-- The same number has the same bits, unless it is zero. -/
theorem sameNumber_iff (x y : Float) : SameNumber x y ↔ x = y ∨ (IsZero x ∧ IsZero y) := by
  unfold SameNumber
  rw [float_beq_iff]
  constructor
  · rintro ((⟨h, -⟩ | h) | ⟨hx, hy⟩)
    · exact .inl h
    · exact .inr h
    · rw [float_isNaN_iff] at hx hy
      exact .inl (float_ext (hx.trans hy.symm))
  · rintro (rfl | h)
    · by_cases hx : x.isNaN = true
      · exact .inr ⟨hx, hx⟩
      · exact .inl (.inl ⟨rfl, hx⟩)
    · exact .inl (.inr h)

namespace SameNumber

/-- Every double is the same number as itself, one that is no number included. -/
@[simp] theorem refl (x : Float) : SameNumber x x := (sameNumber_iff x x).mpr (.inl rfl)

/-- The order of two doubles does not matter. -/
theorem symm {x y : Float} (h : SameNumber x y) : SameNumber y x := by
  rw [sameNumber_iff] at h ⊢
  exact h.imp Eq.symm And.symm

/-- Two doubles that are the same number as a third are the same number. -/
theorem trans {x y z : Float} (hxy : SameNumber x y) (hyz : SameNumber y z) : SameNumber x z := by
  rw [sameNumber_iff] at hxy hyz ⊢
  rcases hxy with rfl | ⟨hx, hy⟩
  · exact hyz
  · rcases hyz with rfl | ⟨-, hz⟩
    · exact .inr ⟨hx, hy⟩
    · exact .inr ⟨hx, hz⟩

private theorem isZero_pack (s : Sign) : IsZero (.ofModel (.pack (.zero s))) := by
  cases s
  · exact ⟨.negative, rfl⟩
  · exact ⟨.positive, rfl⟩

private theorem add_def (x y : Float) :
    x + y = .ofModel (.pack (UnpackedFloat.add .binary64 x.toModel.unpack y.toModel.unpack)) :=
  rfl

/-- Adding zero changes no number. -/
theorem add_zero (x : Float) : SameNumber (x + 0) x := by
  have hzero : (0 : Float).toModel.unpack = .zero .positive := rfl
  have hx : Float.ofModel (.pack x.toModel.unpack) = x := by rw [packed_unpack]
  rw [sameNumber_iff, add_def, hzero]
  cases h : x.toModel.unpack with
  | zero s =>
    refine .inr ⟨?_, s, h⟩
    cases s
    · exact isZero_pack .positive
    · exact isZero_pack .positive
  | notANumber => exact .inl (by rwa [h] at hx)
  | infinity s => exact .inl (by rwa [h] at hx)
  | finite s m e hm => exact .inl (by rwa [h] at hx)

/-- Adding to the same number gives the same number. -/
theorem add_right {x y : Float} (h : SameNumber x y) (z : Float) :
    SameNumber (x + z) (y + z) := by
  rw [sameNumber_iff] at h ⊢
  rcases h with rfl | ⟨⟨s, hs⟩, t, ht⟩
  · exact .inl rfl
  · rw [add_def, add_def, hs, ht]
    cases hz : z.toModel.unpack with
    | zero u =>
      refine .inr ⟨?_, ?_⟩
      · cases s <;> cases u <;> exact isZero_pack _
      · cases t <;> cases u <;> exact isZero_pack _
    | notANumber => exact .inl rfl
    | infinity u => exact .inl rfl
    | finite u m e hm => exact .inl rfl

end SameNumber

/-! ### Order -/

private theorem float_lt_iff (x y : Float) :
    x < y ↔ x.toModel.unpack.compare y.toModel.unpack = some .lt := by
  change decide (x.toModel.unpack.lt y.toModel.unpack = true) = true ↔ _
  rw [decide_eq_true_iff]
  exact beq_iff_eq

private theorem float_le_iff (x y : Float) :
    x ≤ y ↔ (x.toModel.unpack.compare y.toModel.unpack).any Ordering.isLE = true := by
  change decide (x.toModel.unpack.le y.toModel.unpack = true) = true ↔ _
  rw [decide_eq_true_iff]
  rfl

/-- Two doubles compare the other way round when they change places. -/
private theorem compare_swap (x y : UnpackedFloat) :
    y.compare x = (x.compare y).map Ordering.swap := by
  cases x with
  | notANumber => cases y <;> rfl
  | infinity s =>
    cases y with
    | infinity t => cases s <;> cases t <;> rfl
    | _ => cases s <;> rfl
  | zero s =>
    cases y with
    | notANumber | zero t => rfl
    | infinity t | finite t => cases t <;> rfl
  | finite s m e hm =>
    cases y with
    | notANumber | zero t => cases s <;> rfl
    | infinity t => cases s <;> cases t <;> rfl
    | finite t m' e' hm' =>
      have hswap : (compare e' e).then (compare m' m) =
          ((compare e e').then (compare m m')).swap := by
        rw [Ordering.swap_then, ← Std.OrientedOrd.eq_swap, ← Std.OrientedOrd.eq_swap]
      cases s <;> cases t <;> simp [UnpackedFloat.compare, hswap]

/-- Two doubles compare unless one of them is no number. -/
private theorem isSome_compare {x y : UnpackedFloat} (hx : x.isFinite = true)
    (hy : y.isFinite = true) : (x.compare y).isSome := by
  cases x with
  | notANumber | infinity s => cases hx
  | zero s =>
    cases y with
    | notANumber | infinity t => cases hy
    | zero t => rfl
    | finite t => cases t <;> rfl
  | finite s =>
    cases y with
    | notANumber | infinity t => cases hy
    | zero t => cases s <;> rfl
    | finite t => cases s <;> cases t <;> rfl

/-- Of two doubles at most one is below the other. -/
theorem float_lt_asymm {x y : Float} (h : x < y) : ¬ y < x := by
  rw [float_lt_iff] at h
  rw [float_lt_iff, compare_swap, h]
  nofun

/-- No double is below itself. -/
theorem float_lt_irrefl (x : Float) : ¬ x < x := fun h ↦ float_lt_asymm h h

/-- Of two finite doubles the one that is not greater is at most the other. -/
theorem float_le_of_not_lt {x y : Float} (hx : x.isFinite = true) (hy : y.isFinite = true)
    (h : ¬ y < x) : x ≤ y := by
  obtain ⟨o, ho⟩ := Option.isSome_iff_exists.mp (isSome_compare hx hy)
  rw [float_lt_iff, compare_swap, ho] at h
  rw [float_le_iff, ho]
  cases o with
  | lt => rfl
  | eq => rfl
  | gt => exact absurd rfl h

/-- The lesser of two doubles is at most the other. -/
theorem float_le_of_lt {x y : Float} (h : x < y) : x ≤ y := by
  rw [float_lt_iff] at h
  rw [float_le_iff, h]
  rfl

/-- A double that is at most another is not above it. -/
theorem float_not_lt_of_le {x y : Float} (h : x ≤ y) : ¬ y < x := by
  rw [float_le_iff] at h
  rw [float_lt_iff, compare_swap]
  cases hxy : x.toModel.unpack.compare y.toModel.unpack with
  | none => nofun
  | some o =>
    rw [hxy] at h
    cases o with
    | lt => nofun
    | eq => nofun
    | gt => cases h

/-- A double that is at most a finite one is finite, unless it is below zero. -/
theorem float_isFinite_of_le {x y : Float} (h : x ≤ y) (hx : ¬ x < 0) (hy : y.isFinite = true) :
    x.isFinite = true := by
  have hzero : (0 : Float).toModel.unpack = .zero .positive := rfl
  rw [float_le_iff] at h
  rw [float_lt_iff, hzero] at hx
  change y.toModel.unpack.isFinite = true at hy
  change x.toModel.unpack.isFinite = true
  cases hparts : x.toModel.unpack with
  | zero s => rfl
  | finite s m e hm => rfl
  | notANumber =>
    rw [hparts] at h
    cases h
  | infinity s =>
    rw [hparts] at h hx
    cases s with
    | negative => exact absurd rfl hx
    | positive =>
      cases hy' : y.toModel.unpack with
      | notANumber => simp [hy', UnpackedFloat.isFinite] at hy
      | infinity t => simp [hy', UnpackedFloat.isFinite] at hy
      | zero t => rw [hy'] at h; cases h
      | finite t m e hm => rw [hy'] at h; cases h

namespace SameNumber

variable {x y : Float}

/-- The same number is finite or not. -/
theorem isFinite_eq (h : SameNumber x y) : x.isFinite = y.isFinite := by
  rw [sameNumber_iff] at h
  rcases h with rfl | ⟨⟨s, hs⟩, t, ht⟩
  · rfl
  · change x.toModel.unpack.isFinite = y.toModel.unpack.isFinite
    rw [hs, ht]
    rfl

/-- The same number compares in the same way with any other. -/
private theorem compare_eq (h : SameNumber x y) (z : UnpackedFloat) :
    x.toModel.unpack.compare z = y.toModel.unpack.compare z := by
  rw [sameNumber_iff] at h
  rcases h with rfl | ⟨⟨s, hs⟩, t, ht⟩
  · rfl
  · rw [hs, ht]
    cases z with
    | notANumber => rfl
    | zero u => rfl
    | infinity u => cases u <;> rfl
    | finite u m e hm => cases u <;> rfl

theorem le_iff (h : SameNumber x y) (z : Float) : x ≤ z ↔ y ≤ z := by
  rw [float_le_iff, float_le_iff, h.compare_eq]

theorem ge_iff (h : SameNumber x y) (z : Float) : z ≤ x ↔ z ≤ y := by
  rw [float_le_iff, float_le_iff, compare_swap, h.compare_eq, ← compare_swap]

/-- Where one of the two is finite, they compare equal. -/
theorem beq (h : SameNumber x y) (hy : y.isFinite = true) : x == y := by
  rcases h with h | ⟨-, hnan⟩
  · exact h
  · rw [float_isNaN_iff] at hnan
    change y.toModel.unpack.isFinite = true at hy
    rw [hnan] at hy
    cases hy

/-- Without its sign a double that is not below zero is the same number. -/
theorem abs (h : ¬ x < 0) : SameNumber x.abs x := by
  have hx : Float.ofModel (.pack x.toModel.unpack) = x := by rw [packed_unpack]
  have habs : x.abs = .ofModel (.pack x.toModel.unpack.abs) := rfl
  have hzero : (0 : Float).toModel.unpack = .zero .positive := rfl
  rw [float_lt_iff, hzero] at h
  rw [sameNumber_iff, habs]
  cases hparts : x.toModel.unpack with
  | notANumber => exact .inl (by rwa [hparts] at hx)
  | zero s => exact .inr ⟨isZero_pack .positive, s, hparts⟩
  | infinity s =>
    rw [hparts] at h hx
    cases s with
    | positive => exact .inl hx
    | negative => exact absurd rfl h
  | finite s m e hm =>
    rw [hparts] at h hx
    cases s with
    | positive => exact .inl hx
    | negative => exact absurd rfl h

end SameNumber

/-! ### Whole parts -/

/-- The significand of a double has at most 53 bits. -/
private theorem mantissa_lt_of_unpack {m : Float.Model} {sign : Sign} {mantissa : Nat}
    {exponent : Int} {hpos : 0 < mantissa} (h : m.unpack = .finite sign mantissa exponent hpos) :
    mantissa < 2 ^ 53 := by
  unfold Float.Model.unpack UnpackedFloat.unpack at h
  dsimp only at h
  split at h
  · split at h
    · cases h
    · cases h
  · split at h
    · split at h
      · cases h
      · rw [UnpackedFloat.finite.injEq] at h
        rw [← h.2.1]
        exact Nat.lt_trans (BitVec.isLt _) (by decide)
    · rw [UnpackedFloat.finite.injEq] at h
      rw [← h.2.1]
      exact BitVec.isLt _

/-- Shifting right halves the significand at each step. -/
private theorem mantissa_shiftRight (m : ExtendedMantissa) (n : Nat) :
    (m >>> n).mantissa = m.mantissa / 2 ^ n := by
  have hrepeat (n : Nat) : (n.repeat ExtendedMantissa.shiftRightOne m).mantissa =
      m.mantissa / 2 ^ n := by
    induction n with
    | zero => simp [Nat.repeat]
    | succ n ih =>
      rw [Nat.repeat, ExtendedMantissa.shiftRightOne, ih, Nat.div_div_eq_div_mul, pow_succ]
  exact hrepeat n

/-- With an exponent below zero the whole part of a double is a part of its significand. -/
private theorem roundToInt_neg (s : Sign) (m n : Nat) :
    roundToInt s m (-n) = s.apply (m / 2 ^ n : Nat) := by
  have hnone : (-(n : Int) - 0).toNat = 0 := by omega
  have hshift : (0 - (-(n : Int) - (0 : Nat))).toNat = n := by omega
  unfold roundToInt decreaseExponent shiftToExponent
  dsimp only
  rw [hnone, Nat.shiftLeft_zero, hshift, mantissa_shiftRight]
  rfl

/-- A double that is not above a hundred has at most a hundred as its whole part. -/
theorem float_toUInt8_le_hundred {x : Float} (h : ¬ 100 < x) : x.toUInt8 ≤ 100 := by
  have hhundred : (100 : Float).toModel.unpack =
      .finite .positive (100 * 2 ^ 46) (-46) (by decide) := rfl
  have hclamp {n : Int} (hn : n ≤ 100) : UInt8.ofNatClamp n.toNat ≤ 100 := by
    have hlt : n.toNat < UInt8.size := Nat.lt_of_le_of_lt (Int.toNat_le_toNat hn) (by decide)
    rw [UInt8.ofNatClamp, dif_pos hlt, UInt8.le_iff_toNat_le]
    exact Int.toNat_le_toNat hn
  rw [float_lt_iff, hhundred] at h
  change UInt8.ofNatClamp (x.toModel.unpack.toInt 0 (UInt8.size - 1)).toNat ≤ 100
  cases hx : x.toModel.unpack with
  | notANumber => exact hclamp (by decide)
  | zero s => exact hclamp (Int.zero_le_ofNat 100)
  | infinity s =>
    cases s with
    | negative => exact hclamp (by decide)
    | positive =>
      rw [hx] at h
      exact absurd rfl h
  | finite s m e hm =>
    have hbits := mantissa_lt_of_unpack hx
    rw [hx] at h
    apply hclamp
    cases s with
    | negative =>
      change -((_ : Nat) : Int) ≤ 100
      omega
    | positive =>
      -- a smaller exponent makes up for the larger significand, which has no more bits
      have hexponent : e ≤ -46 := by
        by_contra hlt
        have hcompare : compare (-46) e = .lt := Int.compare_eq_lt.mpr (by omega)
        exact h (by simp [UnpackedFloat.compare, hcompare])
      have hmantissa (he : e = -46) : m ≤ 100 * 2 ^ 46 := by
        by_contra hlt
        have hcompare : compare 7036874417766400 m = .lt := Nat.compare_eq_lt.mpr (by omega)
        exact h (by simp [UnpackedFloat.compare, he, hcompare])
      obtain ⟨n, rfl⟩ : ∃ n : Nat, e = -n := ⟨(-e).toNat, by omega⟩
      have hwhole : m / 2 ^ n ≤ 100 := by
        by_cases hn : n = 46
        · subst hn
          exact Nat.div_le_of_le_mul (by have := hmantissa rfl; omega)
        · have hpow : 2 ^ 47 ≤ 2 ^ n := Nat.pow_le_pow_right (by decide) (by omega)
          have hdiv : m / 2 ^ n ≤ m / 2 ^ 47 := Nat.div_le_div_left hpow (by decide)
          omega
      change roundToInt .positive m (-n) ≤ 100
      rw [roundToInt_neg]
      exact Int.ofNat_le.mpr hwhole

end AssignmentGrid
