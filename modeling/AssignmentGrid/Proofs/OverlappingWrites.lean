import Mathlib.Data.List.Induction
import AssignmentGrid.Proofs.Interleaving

/-!
# Refused writes to the same cells

Writes that overlap remember the cells as they find them, optimistic values of one another included,
and a refused write puts back what it has found. A cell therefore ends with what the write settled
last has found in it. Nothing is left of the writes where they form a stack: whoever clears a cell
of writes under way must have found it clear. Specification `SPEC_FULL.md:135,191–193`.
-/

namespace AssignmentGrid

variable {n : Nat} (writes : Fin n → FixedWrite)

/-- Whether a write is refused in all of its rows. -/
def FixedWrite.IsRefused (x : FixedWrite) : Prop := ∀ row, ∃ reason, x.outcome row = .failed reason

/-- Whether no write to a cell is under way after some steps. -/
def IsIdle (done : List (Stage n)) (c : Cell) : Prop :=
  ∀ i, c ∈ (writes i).cells → .prepare i ∈ done → .settle i ∈ done

instance (done : List (Stage n)) (c : Cell) : Decidable (IsIdle writes done c) :=
  inferInstanceAs (Decidable (∀ _, _ → _ → _))

/-- Whether every write whose settling leaves no write to one of its cells under way has found none
under way when it was prepared. -/
def LeavesAsFound (stages : List (Stage n)) : Prop :=
  ∀ i, ∀ c ∈ (writes i).cells,
    IsIdle writes (stepsBefore stages (.settle i) ++ [.settle i]) c →
      IsIdle writes (stepsBefore stages (.prepare i)) c

instance (stages : List (Stage n)) : Decidable (LeavesAsFound writes stages) :=
  inferInstanceAs (Decidable (∀ _, ∀ _ ∈ _, _ → _))

/-! ### Runs -/

namespace Flight

variable {writes} {s : Sheet}

/-- A step revises the rows. -/
theorem exists_revise_step (writes : Fin n → FixedWrite) (f : Flight n) (x : Stage n) :
    ∃ k, (f.step writes x).sheet.roster = f.sheet.roster.revise k := by
  cases x with
  | prepare i => exact ⟨_, f.sheet.roster_prepare (writes i).cells (writes i).value⟩
  | settle i =>
    dsimp only [step]
    split
    · exact ⟨_, (Roster.revise_id f.sheet.roster).symm⟩
    · exact ⟨_, SentWrite.roster_settle _ f.sheet⟩

/-- Steps revise the rows. -/
theorem exists_revise_run (writes : Fin n → FixedWrite) (stages : List (Stage n)) (s : Sheet) :
    ∃ g, (run writes stages s).sheet.roster = s.roster.revise g := by
  induction stages using List.reverseRecOn with
  | nil => exact ⟨_, (Roster.revise_id s.roster).symm⟩
  | append_singleton pre x ih =>
    obtain ⟨g, hg⟩ := ih
    obtain ⟨k, hk⟩ := exists_revise_step writes (run writes pre s) x
    rw [run_append_singleton, hk, hg, Roster.revise_revise]
    exact ⟨_, rfl⟩

/-- The same rows are found after any steps. -/
theorem isSome_find?_run (writes : Fin n → FixedWrite) (stages : List (Stage n)) (s : Sheet)
    (row : RowKey) :
    ((run writes stages s).sheet.roster.find? row).isSome = (s.roster.find? row).isSome := by
  obtain ⟨g, hg⟩ := exists_revise_run writes stages s
  rw [hg, Roster.find?_revise, Option.isSome_map]

/-- Only its preparation changes what is prepared of a write. -/
theorem prepared?_step_of_ne {f : Flight n} {x : Stage n} {i : Fin n} (h : .prepare i ≠ x) :
    (f.step writes x).prepared? i = f.prepared? i := by
  cases x with
  | prepare j =>
    have hij : i ≠ j := fun hij ↦ h (congrArg Stage.prepare hij)
    exact Function.update_of_ne hij ..
  | settle j =>
    dsimp only [step]
    split
    · rfl
    · rfl

/-- A write stays as it was prepared until it is prepared again. -/
theorem prepared?_run {pre mid : List (Stage n)} {i : Fin n} (h : .prepare i ∉ mid) :
    (run writes (pre ++ .prepare i :: mid) s).prepared? i =
      some ((run writes pre s).sheet.prepare (writes i).cells (writes i).value).1 := by
  induction mid using List.reverseRecOn with
  | nil =>
    rw [run_append_singleton]
    exact Function.update_self ..
  | append_singleton mid x ih =>
    rw [List.mem_append, List.mem_singleton, not_or] at h
    rw [← List.cons_append, ← List.append_assoc, run_append_singleton, prepared?_step_of_ne h.2,
      ih h.1]

/-- A write that is under way remembers a sheet of the run. -/
theorem exists_remembers {stages : List (Stage n)} {i : Fin n} {w : PreparedWrite}
    (h : (run writes stages s).prepared? i = some w) :
    ∃ t : Sheet, w.Remembers t (writes i).cells ∧
      ∀ row, (t.roster.find? row).isSome = (s.roster.find? row).isSome := by
  induction stages using List.reverseRecOn with
  | nil => cases h
  | append_singleton pre x ih =>
    rw [run_append_singleton] at h
    by_cases hx : .prepare i = x
    · subst hx
      dsimp only [step] at h
      rw [Function.update_self] at h
      obtain rfl := Option.some.inj h
      exact ⟨_, Sheet.remembers_prepare _ _ _, isSome_find?_run writes pre s⟩
    · rw [prepared?_step_of_ne hx] at h
      exact ih h

/-- A step leaves the cells alone that its write does not name. -/
theorem entry?_step_run (writes : Fin n → FixedWrite) (stages : List (Stage n)) (s : Sheet)
    {x : Stage n} {c : Cell} (hc : c ∉ (writes x.write).cells) :
    ((run writes stages s).step writes x).sheet.roster.entry? c =
      (run writes stages s).sheet.roster.entry? c := by
  cases x with
  | prepare i => exact (Sheet.changesOnly_prepare _ _ _).entry?_eq hc
  | settle i =>
    dsimp only [step]
    split
    · rfl
    · next w hw =>
      obtain ⟨t, ht, hheld⟩ := exists_remembers hw
      have hchanges : (run writes stages s).sheet.ChangesOnly _ (writes i).cells _ :=
        FixedWrite.changesOnly_settle ht fun row ↦ by rw [isSome_find?_run, hheld]
      exact hchanges.entry?_eq hc

/-- Steps leave the cells alone that their writes do not name. -/
theorem entry?_run_append (writes : Fin n → FixedWrite) (pre : List (Stage n))
    {post : List (Stage n)} (s : Sheet) {c : Cell}
    (hc : ∀ x ∈ post, c ∉ (writes x.write).cells) :
    (run writes (pre ++ post) s).sheet.roster.entry? c =
      (run writes pre s).sheet.roster.entry? c := by
  induction post using List.reverseRecOn with
  | nil => rw [List.append_nil]
  | append_singleton post x ih =>
    rw [← List.append_assoc, run_append_singleton, entry?_step_run, ih]
    · intro y hy
      exact hc y (List.mem_append_left _ hy)
    · exact hc x (by simp)

/-- A refused write puts back what its cells held when it was prepared. -/
theorem entry?_run_settle {pre mid : List (Stage n)} {i : Fin n} (hmid : .prepare i ∉ mid)
    (hrefused : (writes i).IsRefused) (s : Sheet) {c : Cell} (hc : c ∈ (writes i).cells) :
    (run writes (pre ++ .prepare i :: mid ++ [.settle i]) s).sheet.roster.entry? c =
      (run writes pre s).sheet.roster.entry? c := by
  set before := (run writes pre s).sheet with hbefore
  set current := run writes (pre ++ .prepare i :: mid) s with hcurrent
  have hw : current.prepared? i = some (before.prepare (writes i).cells (writes i).value).1 :=
    prepared?_run hmid
  have hremembers := before.remembers_prepare (writes i).cells (writes i).value
  have hheld : (current.sheet.roster.find? c.row).isSome = (before.roster.find? c.row).isSome := by
    rw [isSome_find?_run, isSome_find?_run]
  obtain ⟨reason, hout⟩ := hrefused c.row
  rw [run_append_singleton, ← hcurrent]
  simp only [step, hw, Roster.entry?, SentWrite.roster_settle, Roster.find?_revise]
  cases ha : before.roster.find? c.row with
  | none =>
    rw [ha, Option.isSome_none, Option.isSome_eq_false_iff, Option.isNone_iff_eq_none] at hheld
    rw [hheld]
    rfl
  | some a =>
    rw [ha, Option.isSome_some] at hheld
    obtain ⟨now, hnow⟩ := Option.isSome_iff_exists.mp hheld
    rw [hnow]
    have hentry := FixedWrite.getElem?_settling_sent_eq hremembers ha now.hours hc
    rw [hout] at hentry
    exact congrArg some hentry

end Flight

/-! ### Traces -/

section

variable {writes} {stages : List (Stage n)}

/-- A cell to which no write is under way holds what it held at first, if each write leaves its
cells as it has found them. -/
theorem entry?_of_isIdle (hrefused : ∀ i, (writes i).IsRefused) (horder : IsInterleaving stages)
    (hfound : LeavesAsFound writes stages) (s : Sheet) (c : Cell) {pre post : List (Stage n)}
    (hsplit : stages = pre ++ post) (hidle : IsIdle writes pre c) :
    (Flight.run writes pre s).sheet.roster.entry? c = s.roster.entry? c := by
  -- the write that has cleared the cell has found it clear in a shorter part of the run
  induction hlength : pre.length using Nat.strong_induction_on generalizing pre post with
  | _ length ih =>
    rcases pre.eq_nil_or_concat with rfl | ⟨before, x, rfl⟩
    · rfl
    rw [List.concat_eq_append] at hsplit hidle hlength ⊢
    rw [List.length_append, List.length_singleton] at hlength
    rw [List.append_assoc, List.singleton_append] at hsplit
    rw [hsplit] at horder
    by_cases hx : c ∈ (writes x.write).cells
    · cases x with
      | prepare i =>
        have hsettled : .settle i ∈ before := by simpa using hidle i hx (by simp)
        exact absurd rfl (horder.before_prepare _ hsettled)
      | settle i =>
        have hclear : IsIdle writes (stepsBefore stages (.settle i) ++ [.settle i]) c := by
          rwa [hsplit, stepsBefore_append horder.before_settle.2]
        obtain ⟨first, mid, rfl, hfirst, hmid⟩ := horder.split_settle
        have hfirst' : .prepare i ∉ first := fun h ↦ hfirst _ h rfl
        have hmid' : .prepare i ∉ mid := fun h ↦ hmid _ h rfl
        rw [List.append_assoc, List.cons_append] at hsplit
        rw [Flight.entry?_run_settle hmid' (hrefused i) s hx]
        apply ih first.length _ hsplit _ rfl
        · rw [← hlength, List.length_append]
          omega
        · rw [← stepsBefore_append hfirst' (mid ++ .settle i :: post), ← hsplit]
          exact hfound i c hx hclear
    · rw [Flight.run_append_singleton, Flight.entry?_step_run writes before s hx]
      apply ih before.length (by omega) hsplit _ rfl
      intro i hi hprepared
      have hsettled := hidle i hi (List.mem_append_left _ hprepared)
      rw [List.mem_append, List.mem_singleton] at hsettled
      apply hsettled.resolve_right
      rintro rfl
      exact hx hi

end

end AssignmentGrid
