import Mathlib.Data.List.Induction
import AssignmentGrid.Proofs.SelectedBlock

/-!
# Columns of the axis

An axis is laid out in one pass over the keys that are given. A key that an index of columns knows
already is skipped, every other one gets the next column, and the index learns it. So each key
stands where it was given first, looking up a column and looking up a key undo each other, and
neighbours and spans can be told from columns alone. Specification `SPEC_FULL.md:58–60`.
-/

namespace AssignmentGrid

/-! ### Laying out -/

/-- Columns that are being laid out, with an index of the keys that have one. -/
structure ColumnIndex where
  keys : List WeekKey
  columns : Std.ExtTreeMap WeekKey Nat
  /-- A column is known for a key exactly when the key stands there. -/
  columns_iff : ∀ (k : WeekKey) (i : Nat), columns[k]? = some i ↔ keys[i]? = some k

namespace ColumnIndex

/-- No columns. -/
def empty : ColumnIndex := ⟨[], ∅, by simp⟩

variable {x : ColumnIndex} {k : WeekKey}

/-- The index knows the keys that have a column. -/
theorem columns_eq_none_iff : x.columns[k]? = none ↔ k ∉ x.keys := by
  rw [← Option.not_isSome_iff_eq_none, Option.isSome_iff_exists, List.mem_iff_getElem?, not_iff_not]
  exact exists_congr fun i ↦ x.columns_iff k i

/-- A new key stands behind all others. -/
theorem columns_iff_insert (h : x.columns[k]? = none) (l : WeekKey) (i : Nat) :
    (x.columns.insert k x.keys.length)[l]? = some i ↔ (x.keys ++ [k])[i]? = some l := by
  rw [Std.ExtTreeMap.getElem?_insert, List.getElem?_append]
  by_cases hi : i < x.keys.length
  · rw [if_pos hi, ← x.columns_iff]
    by_cases hl : k = l
    · subst hl
      simp [h, Nat.ne_of_gt hi]
    · simp [hl]
  · have hnone : x.columns[l]? ≠ some i := by
      rw [ne_eq, x.columns_iff, List.getElem?_eq_none (Nat.le_of_not_lt hi)]
      nofun
    rw [if_neg hi]
    by_cases hlast : i = x.keys.length
    · subst hlast
      by_cases hl : k = l <;> simp [hl, hnone]
    · have hbeyond : i - x.keys.length ≠ 0 := by omega
      by_cases hl : k = l <;> simp [hl, hnone, hbeyond, Ne.symm hlast]

/-- Give a key the next column, unless the index knows it. -/
def add (x : ColumnIndex) (k : WeekKey) : ColumnIndex :=
  match h : x.columns[k]? with
  | some _ => x
  | none => ⟨x.keys ++ [k], x.columns.insert k x.keys.length, columns_iff_insert h⟩

/-- Give columns to keys, one after the other. -/
def ofKeys (given : List WeekKey) : ColumnIndex := given.foldl add empty

/-- A key that has no column yet is put behind the others. -/
theorem keys_add (x : ColumnIndex) (k : WeekKey) :
    (x.add k).keys = if k ∈ x.keys then x.keys else x.keys ++ [k] := by
  unfold add
  split
  · next i hi => rw [if_pos (List.mem_of_getElem? ((x.columns_iff k i).mp hi))]
  · next hnone => rw [if_neg (columns_eq_none_iff.mp hnone)]

/-- In the end the keys stand in the order in which they were given first. -/
theorem keys_ofKeys (given : List WeekKey) : (ofKeys given).keys = firstOccurrences given := by
  induction given using List.reverseRecOn with
  | nil => rfl
  | append_singleton given k ih =>
    unfold ofKeys at ih ⊢
    rw [List.foldl_append, List.foldl_cons, List.foldl_nil, keys_add, ih,
      firstOccurrences_append_singleton]
    simp only [mem_firstOccurrences]

end ColumnIndex

/-! ### Looking up -/

namespace WeekAxis

variable {a : WeekAxis}

/-- The index that was made with the axis gives the columns of the axis. -/
theorem columns_ofKeys (given : List WeekKey) (k : WeekKey) :
    (ColumnIndex.ofKeys given).columns[k]? = (ofKeys given).position? k := by
  ext i
  rw [ColumnIndex.columns_iff, ColumnIndex.keys_ofKeys, position?_eq_some_iff]
  rfl

/-- A week has another one on its right exactly when this has the week on its left. -/
theorem next?_eq_some_iff {k l : WeekKey} : a.next? k = some l ↔ a.previous? l = some k := by
  unfold next? previous? get?
  rw [Option.bind_eq_some_iff, Option.bind_eq_some_iff]
  constructor
  · rintro ⟨p, hp, hl⟩
    refine ⟨p + 1, position?_eq_some_iff.mpr hl, ?_⟩
    rw [if_neg (Nat.succ_ne_zero p)]
    exact position?_eq_some_iff.mp hp
  · rintro ⟨q, hq, hk⟩
    split at hk
    · cases hk
    · next hpos =>
      refine ⟨q - 1, position?_eq_some_iff.mpr hk, ?_⟩
      rw [Nat.sub_add_cancel (Nat.pos_of_ne_zero hpos)]
      exact position?_eq_some_iff.mp hq

/-! ### Spans -/

/-- Whether some keys are those of the columns from `low` to `high`, both of which there are. -/
structure IsPart (a : WeekAxis) (low high : Nat) (part : List WeekKey) : Prop where
  low_le : low ≤ high
  high_lt : high < a.size
  /-- The keys stand side by side on the axis, behind the first `low` columns. -/
  split : ∃ before behind, a.keys = before ++ part ++ behind ∧ before.length = low
  length : part.length = high + 1 - low

/-- A span reaches from one end to the other, each held back at the last column. -/
theorem isPart_span (hsize : 0 < a.size) (i j : Nat) :
    let last := a.size - 1
    a.IsPart (min (min i last) (min j last)) (max (min i last) (min j last)) (a.span i j) := by
  intro last
  have hlast : last < a.keys.length := Nat.sub_lt hsize Nat.one_pos
  have hlow : min (min i j) last = min (min i last) (min j last) := by omega
  have hhigh : min (max i j) last = max (min i last) (min j last) := by omega
  have hspan : a.span i j = (a.keys.drop (min (min i last) (min j last))).take
      (max (min i last) (min j last) + 1 - min (min i last) (min j last)) := by
    unfold span
    dsimp only
    rw [hlow, hhigh]
  generalize hl : min (min i last) (min j last) = low at hspan ⊢
  generalize hh : max (min i last) (min j last) = high at hspan ⊢
  have hle : low ≤ high := by omega
  have hlt : high < a.keys.length := by omega
  refine ⟨hle, hlt, ⟨a.keys.take low, (a.keys.drop low).drop (high + 1 - low), ?_, ?_⟩, ?_⟩
  · rw [hspan, List.append_assoc, List.take_append_drop, List.take_append_drop]
  · rw [List.length_take]
    omega
  · rw [hspan, List.length_take, List.length_drop]
    omega

end WeekAxis

/-! ### The axis of given keys -/

/-- What an axis is, whose keys are given in any order and with repetitions. -/
structure IsLaidOut (given : List WeekKey) (a : WeekAxis) : Prop where
  /-- It is laid out in one pass, and the index that is made along with it knows its columns. -/
  built : (ColumnIndex.ofKeys given).keys = a.keys ∧
    ∀ k : WeekKey, (ColumnIndex.ofKeys given).columns[k]? = a.position? k
  /-- It has the given keys, -/
  contains : ∀ k, a.contains k = true ↔ k ∈ given
  /-- each of them once, -/
  nodup : a.keys.Nodup
  /-- in the order in which they are given first. -/
  ordered : a.keys.Pairwise fun k l ↦ given.idxOf k < given.idxOf l
  /-- A key has the column in which it stands. -/
  position : ∀ k i, a.position? k = some i ↔ a.get? i = some k
  /-- To be next to the right and next to the left undo each other. -/
  neighbours : ∀ k l, a.next? k = some l ↔ a.previous? l = some k
  /-- A span does not depend on the order of its ends. -/
  span_comm : ∀ i j, a.span i j = a.span j i
  /-- It is the part of the axis between its ends, each held back at the last column. -/
  span_part : 0 < a.size → ∀ i j,
    let last := a.size - 1
    a.IsPart (min (min i last) (min j last)) (max (min i last) (min j last)) (a.span i j)
  /-- An axis without columns has empty spans. -/
  span_empty : a.size = 0 → ∀ i j, a.span i j = []

/-- Whatever keys are given, the axis has each of them where it was given first, and its columns,
neighbours and spans can be looked up both ways. -/
theorem axis_isLaidOut (given : List WeekKey) : IsLaidOut given (WeekAxis.ofKeys given) where
  built := ⟨ColumnIndex.keys_ofKeys given, WeekAxis.columns_ofKeys given⟩
  contains k := by rw [WeekAxis.contains_iff, WeekAxis.mem_ofKeys]
  nodup := (WeekAxis.ofKeys given).nodup
  ordered := pairwise_firstOccurrences given
  position _ _ := WeekAxis.position?_eq_some_iff
  neighbours _ _ := WeekAxis.next?_eq_some_iff
  span_comm := WeekAxis.span_comm _
  span_part hsize := WeekAxis.isPart_span hsize
  span_empty hsize i j := by
    have hsublist := (WeekAxis.ofKeys given).span_sublist i j
    rwa [List.length_eq_zero_iff.mp hsize, List.sublist_nil] at hsublist

end AssignmentGrid
