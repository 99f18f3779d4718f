import Mathlib.Data.List.Forall2
import Mathlib.Data.List.Perm.Basic
import AssignmentGrid.Proofs.SelectedBlock

/-!
# Contiguous cells

A range of arbitrary cells may lie in several rows, repeat a cell, skip a week or leave the axis.
The check before a write sorts the columns of the cells and compares neighbours. It accepts exactly
the cells of one row whose weeks, in whatever order, are the weeks of a stretch of the axis, and it
tells cells of different rows from all other offences. Specification `SPEC_FULL.md:99–102`.
-/

namespace AssignmentGrid

/-! ### Stretches of the axis -/

/-- Weeks that are, in some order, the weeks of a stretch of the axis. As no week stands on the axis
twice, none of them occurs twice. -/
def WeekAxis.Adjoining (a : WeekAxis) (weeks : List WeekKey) : Prop :=
  ∃ block, block <:+: a.keys ∧ weeks.Perm block

/-- Cells all of which lie in one row. -/
def InOneRow (cells : List Cell) : Prop := ∀ c ∈ cells, ∀ d ∈ cells, c.row = d.row

/-- A partial function has values on all elements of a list when it has one on each. -/
theorem mapM_eq_some_iff {α β : Type} {f : α → Option β} {xs : List α} {ys : List β} :
    xs.mapM f = some ys ↔ List.Forall₂ (fun x y ↦ f x = some y) xs ys := by
  induction xs generalizing ys with
  | nil => simp [eq_comm]
  | cons x rest ih =>
    rw [List.forall₂_cons_left_iff, List.mapM_cons]
    constructor
    · intro h
      obtain ⟨y, hy, h⟩ := Option.bind_eq_some_iff.mp h
      obtain ⟨more, hmore, h⟩ := Option.bind_eq_some_iff.mp h
      exact ⟨y, more, hy, ih.mp hmore, (Option.some.inj h).symm⟩
    · rintro ⟨y, more, hy, hmore, rfl⟩
      rw [hy, ih.mpr hmore]
      rfl

namespace WeekAxis

variable {a : WeekAxis} {weeks : List WeekKey}

/-- A stretch of the axis lies in columns that follow each other. -/
theorem isInfix_keys_iff {block : List WeekKey} :
    block <:+: a.keys ↔ ∃ low, List.Forall₂ (fun week p ↦ a.position? week = some p) block
      (List.range' low block.length) := by
  have hcolumn (low i : Nat) (hi : i < block.length) :
      a.position? block[i] = some (low + i) ↔ a.keys[i + low]? = some block[i] := by
    rw [position?_eq_some_iff, Nat.add_comm]
  rw [List.infix_iff_getElem?]
  constructor
  · rintro ⟨low, -, hblock⟩
    refine ⟨low, List.forall₂_iff_get.mpr ⟨by simp, fun i hi _ ↦ ?_⟩⟩
    simpa using (hcolumn low i hi).mpr (hblock i hi)
  · rintro ⟨low, hstand⟩
    have hkeys (i : Nat) (hi : i < block.length) : a.keys[i + low]? = some block[i] := by
      have hi' : i < (List.range' low block.length).length := by simpa using hi
      have hget := (List.forall₂_iff_get.mp hstand).2 i hi hi'
      exact (hcolumn low i hi).mp (by simpa using hget)
    by_cases hnone : block.length = 0
    · exact ⟨0, by omega, by omega⟩
    · obtain ⟨hlast, -⟩ := List.getElem?_eq_some_iff.mp (hkeys (block.length - 1) (by omega))
      exact ⟨low, by omega, hkeys⟩

theorem Adjoining.nodup (h : a.Adjoining weeks) : weeks.Nodup := by
  obtain ⟨block, hblock, hperm⟩ := h
  exact hperm.nodup_iff.mpr (hblock.sublist.nodup a.nodup)

theorem Adjoining.perm (h : a.Adjoining weeks) {others : List WeekKey}
    (hperm : others.Perm weeks) : a.Adjoining others := by
  obtain ⟨block, hblock, hweeks⟩ := h
  exact ⟨block, hblock, hperm.trans hweeks⟩

/-- Weeks adjoin when the columns of all of them are, in some order, numbers that follow each
other. -/
theorem adjoining_iff : a.Adjoining weeks ↔
    ∃ columns low, weeks.mapM a.position? = some columns ∧
      columns.Perm (List.range' low columns.length) := by
  simp only [mapM_eq_some_iff]
  constructor
  · rintro ⟨block, hblock, hperm⟩
    obtain ⟨low, hstand⟩ := isInfix_keys_iff.mp hblock
    obtain ⟨columns, hcolumns, hrange⟩ := List.perm_comp_forall₂ hperm hstand
    refine ⟨columns, low, hcolumns, ?_⟩
    rwa [hrange.length_eq, List.length_range']
  · rintro ⟨columns, low, hcolumns, hperm⟩
    obtain ⟨block, hblock, hweeks⟩ := List.perm_comp_forall₂ hperm.symm hcolumns.flip
    have hlength : columns.length = block.length := by
      rw [← hblock.length_eq, List.length_range']
    refine ⟨block, isInfix_keys_iff.mpr ⟨low, ?_⟩, hweeks.symm⟩
    rw [← hlength]
    exact hblock.flip

end WeekAxis

/-! ### The check -/

namespace Selection

/-- A run are numbers that follow each other. -/
theorem isRun_iff {ns : List Nat} : isRun ns = true ↔ ∃ low, ns = List.range' low ns.length := by
  induction ns with
  | nil => simp [isRun]
  | cons i rest ih =>
    cases rest with
    | nil => simp [isRun]
    | cons j more =>
      rw [isRun, Bool.and_eq_true, beq_iff_eq, ih]
      constructor
      · rintro ⟨rfl, low, hlow⟩
        refine ⟨i, ?_⟩
        rw [List.length_cons, List.range'_succ] at hlow ⊢
        obtain ⟨rfl, hmore⟩ := List.cons.inj hlow
        rw [List.length_cons, List.range'_succ, ← hmore]
      · rintro ⟨low, hlow⟩
        rw [List.length_cons, List.range'_succ] at hlow
        obtain ⟨rfl, hmore⟩ := List.cons.inj hlow
        refine ⟨?_, i + 1, hmore⟩
        rw [List.length_cons, List.range'_succ] at hmore
        exact (List.cons.inj hmore).1

/-- Sorted numbers are a run when the numbers are, in some order, numbers that follow each
other. -/
theorem isRun_mergeSort_iff {ns : List Nat} :
    isRun ns.mergeSort = true ↔ ∃ low, ns.Perm (List.range' low ns.length) := by
  rw [isRun_iff, List.length_mergeSort]
  constructor
  · rintro ⟨low, hlow⟩
    exact ⟨low, hlow ▸ (List.mergeSort_perm ns _).symm⟩
  · rintro ⟨low, hperm⟩
    refine ⟨low, ?_⟩
    have htrans (i j k : Nat) : decide (i ≤ j) → decide (j ≤ k) → decide (i ≤ k) := by
      simpa using Nat.le_trans
    have htotal (i j : Nat) : decide (i ≤ j) || decide (j ≤ i) := by
      simpa using Nat.le_total i j
    have hsorted : ns.mergeSort.Pairwise (· ≤ ·) := by
      simpa using List.pairwise_mergeSort htrans htotal ns
    exact ((List.mergeSort_perm ns _).trans hperm).eq_of_pairwise
      (fun i j _ _ ↦ Nat.le_antisymm) hsorted List.pairwise_le_range'

variable {axis : WeekAxis} {cells : List Cell}

/-- Cells lie in one row when all others lie in the row of the first one. -/
theorem inOneRow_cons_iff {first : Cell} {rest : List Cell} :
    InOneRow (first :: rest) ↔ (rest.all fun c ↦ c.row == first.row) = true := by
  simp only [List.all_eq_true, beq_iff_eq]
  constructor
  · intro h c hc
    exact h c (List.mem_cons_of_mem _ hc) first List.mem_cons_self
  · intro h
    have hfirst : ∀ c ∈ first :: rest, c.row = first.row := List.forall_mem_cons.mpr ⟨rfl, h⟩
    intro c hc d hd
    rw [hfirst c hc, hfirst d hd]

/-- The check tells which of three things cells are: in different rows, the cells of a stretch, or
neither. -/
theorem checkCells_cases (axis : WeekAxis) (cells : List Cell) :
    ¬ InOneRow cells ∧ checkCells axis cells = .error .notOneRow ∨
    InOneRow cells ∧ axis.Adjoining (cells.map Cell.week) ∧ checkCells axis cells = .ok () ∨
    InOneRow cells ∧ ¬ axis.Adjoining (cells.map Cell.week) ∧
      checkCells axis cells = .error .notContiguous := by
  cases cells with
  | nil => exact .inr (.inl ⟨by simp [InOneRow], ⟨[], List.nil_infix, .nil⟩, rfl⟩)
  | cons first rest =>
    rw [inOneRow_cons_iff, WeekAxis.adjoining_iff, List.mapM_map]
    dsimp only [checkCells]
    split
    · next hrow =>
      split
      · next columns hcolumns =>
        split
        · next hrun =>
          obtain ⟨low, hlow⟩ := isRun_mergeSort_iff.mp hrun
          exact .inr (.inl ⟨hrow, ⟨columns, low, hcolumns, hlow⟩, rfl⟩)
        · next hrun =>
          refine .inr (.inr ⟨hrow, ?_, rfl⟩)
          rintro ⟨others, low, hothers, hlow⟩
          obtain rfl : columns = others := Option.some.inj (hcolumns.symm.trans hothers)
          exact hrun (isRun_mergeSort_iff.mpr ⟨low, hlow⟩)
      · next hnone =>
        refine .inr (.inr ⟨hrow, ?_, rfl⟩)
        rintro ⟨columns, low, hcolumns, -⟩
        cases hnone.symm.trans hcolumns
    · next hrow => exact .inl ⟨hrow, rfl⟩

theorem checkCells_eq_ok_iff : checkCells axis cells = .ok () ↔
    InOneRow cells ∧ axis.Adjoining (cells.map Cell.week) := by
  rcases checkCells_cases axis cells with ⟨hrow, h⟩ | ⟨hrow, hweeks, h⟩ | ⟨hrow, hweeks, h⟩
  · simp [h, hrow]
  · simp [h, hrow, hweeks]
  · simp [h, hweeks]

theorem checkCells_eq_notOneRow_iff : checkCells axis cells = .error .notOneRow ↔
    ¬ InOneRow cells := by
  rcases checkCells_cases axis cells with ⟨hrow, h⟩ | ⟨hrow, hweeks, h⟩ | ⟨hrow, hweeks, h⟩
  · simp [h, hrow]
  · simp [h, hrow]
  · simp [h, hrow]

theorem checkCells_eq_notContiguous_iff : checkCells axis cells = .error .notContiguous ↔
    InOneRow cells ∧ ¬ axis.Adjoining (cells.map Cell.week) := by
  rcases checkCells_cases axis cells with ⟨hrow, h⟩ | ⟨hrow, hweeks, h⟩ | ⟨hrow, hweeks, h⟩
  · simp [h, hrow]
  · simp [h, hweeks]
  · simp [h, hrow, hweeks]

/-- The order of the cells does not matter to the check. -/
theorem checkCells_perm {others : List Cell} (hperm : others.Perm cells) :
    checkCells axis others = checkCells axis cells := by
  have hrows : InOneRow others ↔ InOneRow cells := by
    simp only [InOneRow, hperm.mem_iff]
  have hweeks : axis.Adjoining (others.map Cell.week) ↔ axis.Adjoining (cells.map Cell.week) :=
    ⟨fun h ↦ h.perm (hperm.symm.map _), fun h ↦ h.perm (hperm.map _)⟩
  rcases checkCells_cases axis cells with ⟨hrow, h⟩ | ⟨hrow, hweek, h⟩ | ⟨hrow, hweek, h⟩
  · rw [h, checkCells_eq_notOneRow_iff, hrows]
    exact hrow
  · rw [h, checkCells_eq_ok_iff, hrows, hweeks]
    exact ⟨hrow, hweek⟩
  · rw [h, checkCells_eq_notContiguous_iff, hrows, hweeks]
    exact ⟨hrow, hweek⟩

/-- A range of arbitrary cells is checked by its cells. -/
theorem validate_ofCells (axis : WeekAxis) (cells : List Cell) :
    (ofCells cells).validate axis = checkCells axis cells := by
  cases cells with
  | nil => rfl
  | cons first rest => rfl

/-- A range of arbitrary cells passes the check exactly if there are none or they are the cells of
one row in the weeks of a stretch of the axis, each once and in any order. Cells of different rows
are refused as such, and all others as not contiguous. The order of the cells does not matter. -/
theorem contiguity_verdict (axis : WeekAxis) (cells : List Cell) :
    let verdict := (ofCells cells).validate axis
    (verdict = .ok () ↔ cells = [] ∨
      InOneRow cells ∧ (cells.map Cell.week).Nodup ∧ axis.Adjoining (cells.map Cell.week)) ∧
    (verdict = .error .notOneRow ↔ ∃ c ∈ cells, ∃ d ∈ cells, c.row ≠ d.row) ∧
    (verdict = .error .notContiguous ↔ cells ≠ [] ∧ InOneRow cells ∧
      ¬ ((cells.map Cell.week).Nodup ∧ axis.Adjoining (cells.map Cell.week))) ∧
    ∀ others, others.Perm cells → (ofCells others).validate axis = verdict := by
  intro verdict
  have honce : (cells.map Cell.week).Nodup ∧ axis.Adjoining (cells.map Cell.week) ↔
      axis.Adjoining (cells.map Cell.week) := and_iff_right_of_imp WeekAxis.Adjoining.nodup
  have hnone : cells = [] → InOneRow cells ∧ axis.Adjoining (cells.map Cell.week) := by
    rintro rfl
    exact ⟨by simp [InOneRow], [], List.nil_infix, .nil⟩
  have hverdict : verdict = checkCells axis cells := validate_ofCells axis cells
  rw [hverdict, honce]
  refine ⟨?_, ?_, ?_, fun others hperm ↦ ?_⟩
  · rw [checkCells_eq_ok_iff, or_iff_right_of_imp hnone]
  · rw [checkCells_eq_notOneRow_iff]
    simp [InOneRow]
  · rw [checkCells_eq_notContiguous_iff]
    refine (and_iff_right_of_imp ?_).symm
    rintro ⟨-, hweeks⟩ hcells
    exact hweeks (hnone hcells).2
  · rw [validate_ofCells, checkCells_perm hperm]

end Selection

end AssignmentGrid
