import AssignmentGrid.Week.Key

/-!
# The week axis

The week columns of a grid, in the order in which they were given and each once. The axis only
orders and looks up the keys; it computes no weeks. Specification `WeekAxis`, `SPEC_FULL.md:58–60`.
-/

namespace AssignmentGrid

/-- The list without repetitions: every element stands where it occurs first. -/
def firstOccurrences {α : Type} [DecidableEq α] : List α → List α
  | [] => []
  | a :: rest => a :: (firstOccurrences rest).filter (· ≠ a)

/-- Nothing is lost and nothing is added. -/
@[simp] theorem mem_firstOccurrences {α : Type} [DecidableEq α] {a : α} {xs : List α} :
    a ∈ firstOccurrences xs ↔ a ∈ xs := by
  induction xs with
  | nil => simp [firstOccurrences]
  | cons b rest ih =>
    by_cases h : a = b <;> simp [firstOccurrences, ih, h]

/-- No element is left twice. -/
theorem nodup_firstOccurrences {α : Type} [DecidableEq α] (xs : List α) :
    (firstOccurrences xs).Nodup := by
  induction xs with
  | nil => simp [firstOccurrences]
  | cons b rest ih =>
    refine List.nodup_cons.2 ⟨by simp, ?_⟩
    exact List.Pairwise.filter _ ih

/-- An element that is given last is left if it was not given before. -/
theorem firstOccurrences_append_singleton {α : Type} [DecidableEq α] (xs : List α) (a : α) :
    firstOccurrences (xs ++ [a]) =
      if a ∈ xs then firstOccurrences xs else firstOccurrences xs ++ [a] := by
  induction xs with
  | nil => rfl
  | cons b rest ih =>
    rw [List.cons_append, firstOccurrences, firstOccurrences, ih]
    by_cases hrest : a ∈ rest
    · rw [if_pos hrest, if_pos (List.mem_cons_of_mem b hrest)]
    · rw [if_neg hrest, List.filter_append]
      by_cases hb : a = b
      · subst hb
        simp
      · simp [hrest, hb]

/-- What is left stands in the order in which it first occurs. -/
theorem pairwise_firstOccurrences {α : Type} [DecidableEq α] (xs : List α) :
    (firstOccurrences xs).Pairwise fun a b => xs.idxOf a < xs.idxOf b := by
  induction xs with
  | nil => exact .nil
  | cons first rest ih =>
    have hlater : ∀ a ∈ (firstOccurrences rest).filter (· ≠ first),
        (first :: rest).idxOf a = rest.idxOf a + 1 := by
      intro a ha
      have hne : a ≠ first := by simpa using (List.mem_filter.1 ha).2
      rw [List.idxOf_cons, beq_false_of_ne hne.symm, cond_false]
    refine List.pairwise_cons.2 ⟨fun a ha => ?_, (ih.filter _).imp_of_mem fun {a b} ha hb hab => ?_⟩
    · rw [List.idxOf_cons_self, hlater a ha]
      exact Nat.succ_pos _
    · rw [hlater a ha, hlater b hb]
      exact Nat.succ_lt_succ hab

/-- The week columns of a grid, none of them twice. Specification `WeekAxis`, `SPEC_FULL.md:58–59`.
-/
structure WeekAxis where
  keys : List WeekKey
  nodup : keys.Nodup := by simp
  deriving DecidableEq

namespace WeekAxis

/-- An axis without columns. -/
def empty : WeekAxis := { keys := [] }

/-- The axis with the given keys in the given order; a repeated key counts at its first place.
Operation `new`, specification `SPEC_FULL.md:58–59`. -/
def ofKeys (keys : List WeekKey) : WeekAxis :=
  ⟨firstOccurrences keys, nodup_firstOccurrences keys⟩

/-- The number of columns. -/
def size (a : WeekAxis) : Nat := a.keys.length

/-- The key of a column. -/
def get? (a : WeekAxis) (column : Nat) : Option WeekKey := a.keys[column]?

/-- The column of a key. Specification `position`, `SPEC_FULL.md:60`. -/
def position? (a : WeekAxis) (k : WeekKey) : Option Nat := a.keys.idxOf? k

/-- Whether a key has a column. -/
def contains (a : WeekAxis) (k : WeekKey) : Bool := a.keys.contains k

/-- The key one column to the right. Specification `next`, `SPEC_FULL.md:60`. -/
def next? (a : WeekAxis) (k : WeekKey) : Option WeekKey :=
  (a.position? k).bind fun p => a.get? (p + 1)

/-- The key one column to the left. Specification `prev`, `SPEC_FULL.md:60`. -/
def previous? (a : WeekAxis) (k : WeekKey) : Option WeekKey :=
  (a.position? k).bind fun p => if p = 0 then none else a.get? (p - 1)

/-- The keys of the columns from one end to the other, both included and in either order; an end
beyond the axis stands for the last column. Specification `range`, `SPEC_FULL.md:60`. -/
def span (a : WeekAxis) (i j : Nat) : List WeekKey :=
  let last := a.size - 1
  let low := min (min i j) last
  let high := min (max i j) last
  (a.keys.drop low).take (high + 1 - low)

end WeekAxis

/-! ### Moves -/

/-- Why an operation stops before its end, and the program with it. -/
inductive Halt where
  /-- A sum does not fit a signed word of 64 bits. -/
  | overflow
  deriving DecidableEq, Repr

namespace Halt

variable {α β : Type}

/-- What there is after an operation that may stop. Whatever stops has changed nothing before. -/
def stateAfter (before : α) : Except Halt α → α
  | .ok after => after
  | .error _ => before

theorem map_eq_ok_iff {f : α → β} {x : Except Halt α} {y : β} :
    x.map f = .ok y ↔ ∃ a, x = .ok a ∧ f a = y := by
  cases x with
  | ok a => simp [Except.map]
  | error e => simp [Except.map]

/-- Part of a state is changed or left as the part itself is. -/
theorem stateAfter_map (f : α → β) (before : α) (x : Except Halt α) :
    stateAfter (f before) (x.map f) = f (stateAfter before x) := by
  cases x with
  | ok after => rfl
  | error e => rfl

/-- A move to something, if there is anything: it leads there or leaves everything as it was. -/
theorem stateAfter_elim (before : α) (x : Except Halt (Option β)) (f : β → α) :
    stateAfter before (x.map fun y? => y?.elim before f) = before ∨
      ∃ y, x = .ok (some y) ∧ stateAfter before (x.map fun y? => y?.elim before f) = f y := by
  cases x with
  | error e => exact .inl rfl
  | ok y? =>
    cases y? with
    | none => exact .inl rfl
    | some y => exact .inr ⟨y, rfl, rfl⟩

end Halt

/-- Where a move by `delta` from place `position` ends in a row of `size` places. The sum is taken
in a signed word of 64 bits and then brought into the row; if it does not fit, the move stops. -/
def clampedMove (size position : Nat) (delta : Int64) : Except Halt Nat :=
  let target := (Int64.ofNat position).toInt + delta.toInt
  if Int64.minValue.toInt ≤ target ∧ target ≤ Int64.maxValue.toInt then
    .ok (max 0 (min target (size - 1))).toNat
  else .error .overflow

/-- The key `delta` columns from `k`, held back at both ends of the axis. Operation `offset`,
specification `SPEC_FULL.md:103–105`. -/
def WeekAxis.offset (a : WeekAxis) (k : WeekKey) (delta : Int64) :
    Except Halt (Option WeekKey) :=
  match a.position? k with
  | some p => (clampedMove a.size p delta).map a.get?
  | none => .ok none

/-- The column labels, from left to right. -/
def WeekAxis.labels (a : WeekAxis) : List (List Char) := a.keys.map WeekKey.label

namespace WeekAxis

/-- The axis holds the given keys and no others. -/
@[simp] theorem mem_ofKeys {k : WeekKey} {keys : List WeekKey} :
    k ∈ (ofKeys keys).keys ↔ k ∈ keys := by
  simp [ofKeys]

/-- A key has a column when it stands on the axis. -/
@[simp] theorem contains_iff {a : WeekAxis} {k : WeekKey} : a.contains k = true ↔ k ∈ a.keys := by
  simp [contains]

end WeekAxis

end AssignmentGrid
