import Mathlib.Data.List.Nodup
import Mathlib.Data.List.Perm.Basic
import AssignmentGrid.Selection

/-!
# The selected block

Clicks, drags and arrow keys may follow each other in any order. Whatever they lead to, the
selection has one of four shapes, and a range is the block of its row from the anchor to the focus.
So the selected cells are known from the two ends, and several of them always pass the check before
a write. Specification `SPEC_FULL.md:70–72,89–105`.
-/

namespace AssignmentGrid

/-! ### Columns -/

namespace WeekAxis

variable {a : WeekAxis}

/-- The column of a key is the one in which it stands. -/
theorem position?_eq_some_iff {k : WeekKey} {p : Nat} :
    a.position? k = some p ↔ a.keys[p]? = some k := by
  unfold position?
  rw [List.idxOf?_eq_some_iff, List.getElem?_eq_some_iff]
  constructor
  · rintro ⟨hp, hk, -⟩
    exact ⟨hp, hk⟩
  · rintro ⟨hp, hk⟩
    refine ⟨hp, hk, ?_⟩
    intro q hq hqk
    have hsame : q = p := a.nodup.getElem_inj_iff.mp (hqk.trans hk.symm)
    omega

theorem lt_size_of_position? {k : WeekKey} {p : Nat} (h : a.position? k = some p) :
    p < a.size :=
  (List.getElem?_eq_some_iff.mp (position?_eq_some_iff.mp h)).1

/-- Between two columns of the axis nothing has to be held back. -/
theorem span_eq {i j : Nat} (hi : i < a.size) (hj : j < a.size) :
    a.span i j = (a.keys.drop (min i j)).take (max i j + 1 - min i j) := by
  have hlow : min (min i j) (a.size - 1) = min i j := by omega
  have hhigh : min (max i j) (a.size - 1) = max i j := by omega
  unfold span
  dsimp only
  rw [hlow, hhigh]

/-- A span keeps the order of the axis. -/
theorem span_sublist (a : WeekAxis) (i j : Nat) : (a.span i j).Sublist a.keys :=
  (List.take_sublist _ _).trans (List.drop_sublist _ _)

/-- A span holds the weeks whose column lies between its ends. -/
theorem mem_span_iff {i j : Nat} (hi : i < a.size) (hj : j < a.size) {week : WeekKey} :
    week ∈ a.span i j ↔ ∃ p, a.position? week = some p ∧ min i j ≤ p ∧ p ≤ max i j := by
  rw [span_eq hi hj, List.mem_iff_getElem?]
  constructor
  · rintro ⟨n, hn⟩
    rw [List.getElem?_take, Option.ite_none_right_eq_some, List.getElem?_drop] at hn
    exact ⟨min i j + n, position?_eq_some_iff.mpr hn.2, by omega, by omega⟩
  · rintro ⟨p, hp, hlow, hhigh⟩
    refine ⟨p - min i j, ?_⟩
    rw [List.getElem?_take, if_pos (by omega), List.getElem?_drop, Nat.add_sub_cancel' hlow]
    exact position?_eq_some_iff.mp hp

theorem span_comm (a : WeekAxis) (i j : Nat) : a.span i j = a.span j i := by
  unfold span
  rw [Nat.min_comm i j, Nat.max_comm i j]

/-- From a column to itself there is one week. -/
theorem span_self {k : WeekKey} {p : Nat} (hp : a.position? k = some p) : a.span p p = [k] := by
  obtain ⟨hlt, hk⟩ := List.getElem?_eq_some_iff.mp (position?_eq_some_iff.mp hp)
  rw [span_eq hlt hlt, Nat.min_self, Nat.max_self, List.drop_eq_getElem_cons hlt, hk,
    Nat.add_sub_cancel_left]
  rfl

/-- The columns of weeks that stand side by side follow each other. -/
theorem mapM_position? (low n : Nat) :
    ∃ m, ((a.keys.drop low).take n).mapM a.position? = some (List.range' low m) := by
  induction n generalizing low with
  | zero => exact ⟨0, rfl⟩
  | succ n ih =>
    by_cases hlow : low < a.keys.length
    · obtain ⟨m, hm⟩ := ih (low + 1)
      have hfirst : a.position? a.keys[low] = some low :=
        position?_eq_some_iff.mpr (List.getElem?_eq_getElem hlow)
      refine ⟨m + 1, ?_⟩
      rw [List.drop_eq_getElem_cons hlow, List.take_succ_cons, List.mapM_cons, hfirst, hm]
      rfl
    · rw [List.drop_eq_nil_of_le (by omega), List.take_nil]
      exact ⟨0, rfl⟩

end WeekAxis

/-! ### Blocks -/

theorem Cell.map_week_inWeek (c : Cell) (weeks : List WeekKey) :
    (weeks.map c.inWeek).map Cell.week = weeks := by
  rw [List.map_map]
  exact List.map_id _

/-- Cells that make up the block of a row from one cell to another. -/
structure IsBlock (axis : WeekAxis) (anchor focus : Cell) (cells : List Cell) : Prop where
  /-- Both ends lie in one row. -/
  row : focus.row = anchor.row
  /-- Both ends have columns, and the cells are those of the row between these. -/
  cells_between : ∃ i j, axis.position? anchor.week = some i ∧
    axis.position? focus.week = some j ∧
    ∀ c, c ∈ cells ↔ c.row = anchor.row ∧
      ∃ p, axis.position? c.week = some p ∧ min i j ≤ p ∧ p ≤ max i j
  /-- They stand in the order of the axis, and none of them twice. -/
  ordered : (cells.map Cell.week).Sublist axis.keys

namespace IsBlock

variable {axis : WeekAxis} {anchor focus : Cell} {cells : List Cell}

/-- The weeks from one column of the axis to another make up a block. -/
theorem of_span {i j : Nat} (hrow : focus.row = anchor.row)
    (hi : axis.position? anchor.week = some i) (hj : axis.position? focus.week = some j) :
    IsBlock axis anchor focus ((axis.span i j).map anchor.inWeek) where
  row := hrow
  cells_between := by
    refine ⟨i, j, hi, hj, ?_⟩
    intro c
    rw [List.mem_map, ← WeekAxis.mem_span_iff (WeekAxis.lt_size_of_position? hi)
      (WeekAxis.lt_size_of_position? hj)]
    constructor
    · rintro ⟨week, hweek, rfl⟩
      exact ⟨rfl, hweek⟩
    · rintro ⟨hc, hweek⟩
      refine ⟨c.week, hweek, ?_⟩
      rw [Cell.inWeek, ← hc]
  ordered := by
    rw [anchor.map_week_inWeek]
    exact axis.span_sublist i j

theorem anchor_mem (h : IsBlock axis anchor focus cells) : anchor ∈ cells := by
  obtain ⟨i, j, hi, -, hmem⟩ := h.cells_between
  exact (hmem anchor).mpr ⟨rfl, i, hi, by omega, by omega⟩

theorem focus_mem (h : IsBlock axis anchor focus cells) : focus ∈ cells := by
  obtain ⟨i, j, -, hj, hmem⟩ := h.cells_between
  exact (hmem focus).mpr ⟨h.row, j, hj, by omega, by omega⟩

theorem row_eq (h : IsBlock axis anchor focus cells) {c : Cell} (hc : c ∈ cells) :
    c.row = anchor.row := by
  obtain ⟨i, j, -, -, hmem⟩ := h.cells_between
  exact ((hmem c).mp hc).1

theorem mem_weeks_iff (h : IsBlock axis anchor focus cells) {week : WeekKey} :
    week ∈ cells.map Cell.week ↔ anchor.inWeek week ∈ cells := by
  rw [List.mem_map]
  constructor
  · rintro ⟨c, hc, rfl⟩
    rw [Cell.inWeek, ← h.row_eq hc]
    exact hc
  · intro hc
    exact ⟨_, hc, rfl⟩

theorem eq_map_inWeek (h : IsBlock axis anchor focus cells) :
    cells = (cells.map Cell.week).map anchor.inWeek := by
  have hself : ∀ c ∈ cells, (anchor.inWeek ∘ Cell.week) c = id c := by
    intro c hc
    rw [Function.comp_apply, Cell.inWeek, ← h.row_eq hc]
    rfl
  rw [List.map_map, List.map_congr_left hself, List.map_id]

/-- There is one block between two cells. -/
theorem unique (h : IsBlock axis anchor focus cells) {others : List Cell}
    (h' : IsBlock axis anchor focus others) : cells = others := by
  have hweeks : cells.map Cell.week = others.map Cell.week := by
    rw [← List.Nodup.perm_iff_eq_of_sublist axis.nodup h.ordered h'.ordered,
      List.perm_ext_iff_of_nodup (h.ordered.nodup axis.nodup) (h'.ordered.nodup axis.nodup)]
    intro week
    rw [h.mem_weeks_iff, h'.mem_weeks_iff]
    obtain ⟨i, j, hi, hj, hmem⟩ := h.cells_between
    obtain ⟨i', j', hi', hj', hmem'⟩ := h'.cells_between
    obtain rfl : i = i' := Option.some.inj (hi.symm.trans hi')
    obtain rfl : j = j' := Option.some.inj (hj.symm.trans hj')
    rw [hmem, hmem']
  rw [h.eq_map_inWeek, hweeks, ← h'.eq_map_inWeek]

/-- A cell makes up the block from itself to itself. -/
theorem singleton {p : Nat} (hp : axis.position? anchor.week = some p) :
    IsBlock axis anchor anchor [anchor] where
  row := rfl
  cells_between := by
    refine ⟨p, p, hp, hp, ?_⟩
    intro c
    rw [List.mem_singleton]
    constructor
    · rintro rfl
      exact ⟨rfl, p, hp, by omega, by omega⟩
    · rintro ⟨hrow, q, hq, hlow, hhigh⟩
      obtain rfl : q = p := by omega
      have hweek : c.week = anchor.week :=
        Option.some.inj ((WeekAxis.position?_eq_some_iff.mp hq).symm.trans
          (WeekAxis.position?_eq_some_iff.mp hp))
      cases c
      cases anchor
      cases hrow
      cases hweek
      rfl
  ordered := List.singleton_sublist.mpr
    (List.mem_of_getElem? (WeekAxis.position?_eq_some_iff.mp hp))

end IsBlock

/-- The block that a stretch selects is the one there is. -/
theorem block?_eq_some_iff {axis : WeekAxis} {anchor focus : Cell} {cells : List Cell} :
    block? axis anchor focus = some cells ↔ IsBlock axis anchor focus cells := by
  constructor
  · intro h
    unfold block? at h
    split at h
    · next hrow =>
      obtain ⟨i, hi, h⟩ := Option.bind_eq_some_iff.mp h
      obtain ⟨j, hj, h⟩ := Option.bind_eq_some_iff.mp h
      cases h
      exact .of_span hrow.symm hi hj
    · cases h
  · intro h
    obtain ⟨i, j, hi, hj, -⟩ := h.cells_between
    rw [h.unique (.of_span h.row hi hj), block?, if_pos h.row.symm, hi, hj]
    rfl

/-! ### Checking -/

namespace Selection

/-- Numbers that follow each other are a run. -/
theorem isRun_range' (low n : Nat) : isRun (List.range' low n) = true := by
  induction n generalizing low with
  | zero => rfl
  | succ n ih =>
    cases n with
    | zero => rfl
    | succ n =>
      have hrest := ih (low + 1)
      rw [List.range'_succ] at hrest
      rw [List.range'_succ, List.range'_succ, isRun, hrest, beq_self_eq_true, Bool.and_self]

/-- A block passes the check before a write. -/
theorem checkCells_of_isBlock {axis : WeekAxis} {anchor focus : Cell} {cells : List Cell}
    (h : IsBlock axis anchor focus cells) : checkCells axis cells = .ok () := by
  obtain ⟨i, j, hi, hj, -⟩ := h.cells_between
  have hcells : cells = (axis.span i j).map anchor.inWeek := h.unique (.of_span h.row hi hj)
  obtain ⟨m, hcolumns⟩ := WeekAxis.mapM_position? (a := axis) (min i j) (max i j + 1 - min i j)
  rw [← WeekAxis.span_eq (WeekAxis.lt_size_of_position? hi) (WeekAxis.lt_size_of_position? hj)]
    at hcolumns
  have hpositions : cells.mapM (fun c ↦ axis.position? c.week) =
      some (List.range' (min i j) m) := by
    rw [hcells, List.mapM_map]
    exact hcolumns
  have hsorted : (List.range' (min i j) m).mergeSort = List.range' (min i j) m :=
    List.mergeSort_of_pairwise (by simpa using List.pairwise_le_range')
  cases cells with
  | nil => rfl
  | cons first rest =>
    have hrows : (rest.all fun c ↦ c.row == first.row) = true := by
      rw [List.all_eq_true]
      intro c hc
      rw [beq_iff_eq, h.row_eq (List.mem_cons_of_mem _ hc), h.row_eq List.mem_cons_self]
    simp only [checkCells, hrows, hpositions, hsorted, isRun_range', if_true]

/-! ### Shapes -/

/-- A cell that is selected alone is all that is selected. -/
theorem cells_of_cell? {s : Selection} {c : Cell} (h : s.cell? = some c) : s.cells = [c] := by
  unfold cell? at h
  unfold cells
  split at h
  · next hextent =>
    cases h
    rw [hextent]
  · next hextent =>
    cases h
    rw [hextent]
  · cases h

theorem mem_cells_of_cell? {s : Selection} {c : Cell} (h : s.cell? = some c) : c ∈ s.cells := by
  rw [cells_of_cell? h]
  exact List.mem_singleton_self c

/-- What clicks, drags and arrow keys lead to on an axis. -/
inductive Coherent (axis : WeekAxis) : Selection → Prop
  /-- Nothing is selected, and there is neither an anchor nor a focus nor a drag. -/
  | nothing : Coherent axis {}
  /-- One cell is selected and is anchor and focus. -/
  | single (c : Cell) (isDragging : Bool) :
      Coherent axis ⟨.single c, some c, some c, isDragging⟩
  /-- A drag has begun at a cell, on the axis or not, and has led nowhere yet. -/
  | begun (c : Cell) (isDragging : Bool) :
      Coherent axis ⟨.range [c] c, some c, some c, isDragging⟩
  /-- A range has been stretched from the anchor to the focus. -/
  | stretched (anchor focus : Cell) (cells : List Cell) (isDragging : Bool)
      (block : IsBlock axis anchor focus cells) :
      Coherent axis ⟨.range cells anchor, some anchor, some focus, isDragging⟩

/-- A step of a selection. -/
inductive Step where
  | select (cell : Cell) (extend : Bool)
  | beginDrag (cell : Cell)
  | dragTo (cell : Cell)
  | endDrag
  | moveBy (delta : Int64)
  | extendBy (delta : Int64)
  | clear
  deriving DecidableEq, Repr

/-- The selection after a step. One that stops leaves the selection as it was. -/
def Step.perform (axis : WeekAxis) (s : Selection) : Step → Selection
  | select cell extend => s.select axis cell extend
  | beginDrag cell => s.beginDrag cell
  | dragTo cell => s.dragTo axis cell
  | endDrag => s.endDrag
  | moveBy delta => Halt.stateAfter s (s.moveBy axis delta)
  | extendBy delta => Halt.stateAfter s (s.extendBy axis delta)
  | clear => s.clear

/-- The selection after steps from nothing. -/
def run (axis : WeekAxis) (steps : List Step) : Selection :=
  steps.foldl (fun s step ↦ step.perform axis s) {}

section

variable (s : Selection) (axis : WeekAxis) (delta : Int64)

/-- A move selects the cell to which it leads, if there is one and the move does not stop. -/
theorem stateAfter_moveBy : Halt.stateAfter s (s.moveBy axis delta) = s ∨
    ∃ cell, s.target axis delta = .ok (some cell) ∧
      Halt.stateAfter s (s.moveBy axis delta) = s.pick cell :=
  Halt.stateAfter_elim s (s.target axis delta) s.pick

/-- And so a range is stretched. -/
theorem stateAfter_extendBy : Halt.stateAfter s (s.extendBy axis delta) = s ∨
    ∃ cell, s.target axis delta = .ok (some cell) ∧
      Halt.stateAfter s (s.extendBy axis delta) = s.stretch axis cell :=
  Halt.stateAfter_elim s (s.target axis delta) (s.stretch axis)

end

namespace Coherent

variable {axis : WeekAxis} {s t : Selection}

theorem pick (s : Selection) (cell : Cell) : (s.pick cell).Coherent axis := .single cell _

theorem stretchFrom (h : s.Coherent axis) {anchor : Cell} (hanchor : s.anchor? = some anchor)
    (cell : Cell) : (s.stretchFrom axis anchor cell).Coherent axis := by
  unfold Selection.stretchFrom
  split
  · next cells hblock =>
    rw [hanchor]
    exact .stretched anchor cell cells _ (block?_eq_some_iff.mp hblock)
  · exact h

theorem stretch (h : s.Coherent axis) (cell : Cell) : (s.stretch axis cell).Coherent axis := by
  unfold Selection.stretch
  split
  · next anchor hanchor => exact h.stretchFrom hanchor cell
  · exact pick s cell

theorem select (h : s.Coherent axis) (cell : Cell) (extend : Bool) :
    (s.select axis cell extend).Coherent axis := by
  cases extend with
  | false => exact pick s cell
  | true => exact h.stretch cell

theorem dragTo (h : s.Coherent axis) (cell : Cell) : (s.dragTo axis cell).Coherent axis := by
  unfold Selection.dragTo
  split
  · next anchor _ hanchor => exact h.stretchFrom hanchor cell
  · exact h

theorem endDrag (h : s.Coherent axis) : s.endDrag.Coherent axis := by
  cases h with
  | nothing => exact .nothing
  | single c => exact .single c false
  | begun c => exact .begun c false
  | stretched anchor focus cells _ block => exact .stretched anchor focus cells false block

/-- A whole drag, from the cell at which it begins. -/
theorem dragged (s : Selection) (axis : WeekAxis) (start stop : Cell) :
    let dragged := ((s.beginDrag start).dragTo axis stop).endDrag
    dragged.Coherent axis ∧ dragged.anchor? = some start := by
  refine ⟨((begun start true).dragTo stop).endDrag, ?_⟩
  change (((s.beginDrag start).stretchFrom axis start stop).endDrag).anchor? = some start
  unfold Selection.stretchFrom
  split
  · rfl
  · rfl

/-- A drag to another week of the row selects all weeks between. -/
theorem weeks_dragged (s : Selection) (axis : WeekAxis) (start stop : Cell)
    (hrow : stop.row = start.row) {i j : Nat} (hi : axis.position? start.week = some i)
    (hj : axis.position? stop.week = some j) :
    (((s.beginDrag start).dragTo axis stop).endDrag).cells.map Cell.week = axis.span i j := by
  have hblock := block?_eq_some_iff.mpr (IsBlock.of_span hrow hi hj)
  change (((s.beginDrag start).stretchFrom axis start stop).endDrag).cells.map Cell.week = _
  unfold Selection.stretchFrom
  rw [hblock]
  exact start.map_week_inWeek _

theorem moveBy (h : s.Coherent axis) (delta : Int64) :
    (Halt.stateAfter s (s.moveBy axis delta)).Coherent axis := by
  rcases s.stateAfter_moveBy axis delta with hstays | ⟨cell, -, hmoves⟩
  · rwa [hstays]
  · rw [hmoves]
    exact pick s cell

theorem extendBy (h : s.Coherent axis) (delta : Int64) :
    (Halt.stateAfter s (s.extendBy axis delta)).Coherent axis := by
  rcases s.stateAfter_extendBy axis delta with hstays | ⟨cell, -, hstretches⟩
  · rwa [hstays]
  · rw [hstretches]
    exact h.stretch cell

/-- Every step keeps the shape. -/
theorem perform (h : s.Coherent axis) (step : Step) : (step.perform axis s).Coherent axis := by
  cases step with
  | select cell extend => exact h.select cell extend
  | beginDrag cell => exact .begun cell true
  | dragTo cell => exact h.dragTo cell
  | endDrag => exact h.endDrag
  | moveBy delta => exact h.moveBy delta
  | extendBy delta => exact h.extendBy delta
  | clear => exact .nothing

/-- Every sequence of steps leads to one of the shapes. -/
theorem run (axis : WeekAxis) (steps : List Step) : (Selection.run axis steps).Coherent axis := by
  unfold Selection.run
  have hsteps : ∀ s : Selection, s.Coherent axis →
      (steps.foldl (fun s step ↦ step.perform axis s) s).Coherent axis := by
    induction steps with
    | nil => exact fun _ h ↦ h
    | cons step rest ih => exact fun s h ↦ ih _ (h.perform step)
  exact hsteps {} .nothing

/-- The selected cells are known from the two ends. -/
theorem cells_eq (h : s.Coherent axis) :
    s.cells = match s.anchor?, s.focus? with
      | some anchor, some focus =>
        if focus = anchor then [anchor] else (block? axis anchor focus).getD []
      | _, _ => [] := by
  cases h with
  | nothing => rfl
  | single c => exact (if_pos rfl).symm
  | begun c => exact (if_pos rfl).symm
  | stretched anchor focus cells _ block =>
    by_cases hends : focus = anchor
    · subst hends
      obtain ⟨p, -, hp, -, -⟩ := block.cells_between
      exact (block.unique (.singleton hp)).trans (if_pos rfl).symm
    · change cells = if focus = anchor then [anchor] else (block? axis anchor focus).getD []
      rw [if_neg hends, block?_eq_some_iff.mpr block, Option.getD_some]

theorem cells_eq_of_ends (hs : s.Coherent axis) (ht : t.Coherent axis)
    (hanchor : s.anchor? = t.anchor?) (hfocus : s.focus? = t.focus?) : s.cells = t.cells := by
  rw [hs.cells_eq, ht.cells_eq, hanchor, hfocus]

/-- The focus and all selected cells lie in the row of the anchor. -/
theorem row_of_anchor (h : s.Coherent axis) {anchor : Cell} (hanchor : s.anchor? = some anchor) :
    (∃ focus, s.focus? = some focus ∧ focus.row = anchor.row) ∧
      ∀ c ∈ s.cells, c.row = anchor.row := by
  cases h with
  | nothing => cases hanchor
  | single c =>
    cases hanchor
    exact ⟨⟨anchor, rfl, rfl⟩, by simp [cells]⟩
  | begun c =>
    cases hanchor
    exact ⟨⟨anchor, rfl, rfl⟩, by simp [cells]⟩
  | stretched anchor focus cells _ block =>
    cases hanchor
    exact ⟨⟨focus, rfl, block.row⟩, fun c hc ↦ block.row_eq hc⟩

/-- The anchor is one of the selected cells. -/
theorem anchor_mem (h : s.Coherent axis) {c : Cell} (hc : s.anchor? = some c) :
    c ∈ s.cells := by
  cases h with
  | nothing => cases hc
  | single cell =>
    cases hc
    exact List.mem_singleton_self _
  | begun cell =>
    cases hc
    exact List.mem_singleton_self _
  | stretched anchor focus cells _ block =>
    cases hc
    exact block.anchor_mem

/-- The focus is one of the selected cells. -/
theorem focus_mem (h : s.Coherent axis) {c : Cell} (hc : s.focus? = some c) :
    c ∈ s.cells := by
  cases h with
  | nothing => cases hc
  | single cell =>
    cases hc
    exact List.mem_singleton_self _
  | begun cell =>
    cases hc
    exact List.mem_singleton_self _
  | stretched anchor focus cells _ block =>
    cases hc
    exact block.focus_mem

/-- A cell that is selected alone is the focus. -/
theorem focus_of_cell? (h : s.Coherent axis) {c : Cell} (hc : s.cell? = some c) :
    s.focus? = some c := by
  obtain ⟨focus, hfocus⟩ : ∃ focus, s.focus? = some focus := by
    cases h with
    | nothing => cases hc
    | _ => exact ⟨_, rfl⟩
  have hmem : focus ∈ s.cells := h.focus_mem hfocus
  rw [cells_of_cell? hc, List.mem_singleton] at hmem
  rw [hfocus, hmem]

/-- Several selected cells are a block. -/
theorem isBlock (h : s.Coherent axis) (hmulti : s.isMulti = true) :
    ∃ anchor focus, s.extent = .range s.cells anchor ∧ IsBlock axis anchor focus s.cells := by
  cases h with
  | nothing => simp [isMulti, cells] at hmulti
  | single c => simp [isMulti, cells] at hmulti
  | begun c => simp [isMulti, cells] at hmulti
  | stretched anchor focus cells _ block => exact ⟨anchor, focus, rfl, block⟩

/-- Several selected cells pass the check before a write. -/
theorem validate (h : s.Coherent axis) (hmulti : s.isMulti = true) :
    s.validate axis = .ok () := by
  obtain ⟨anchor, focus, hextent, hblock⟩ := h.isBlock hmulti
  unfold Selection.validate
  rw [hextent]
  exact checkCells_of_isBlock hblock

end Coherent

/-- Whatever steps a selection goes through, it keeps to its shapes. The selected cells depend on
the anchor and the focus alone, and several of them pass the check before a write. -/
theorem selected_block (axis : WeekAxis) (steps : List Step) :
    let s := run axis steps
    s.Coherent axis ∧
    (∀ others, (run axis others).anchor? = s.anchor? → (run axis others).focus? = s.focus? →
      (run axis others).cells = s.cells) ∧
    (s.isMulti = true → s.validate axis = .ok ()) := by
  intro s
  have hs : s.Coherent axis := .run axis steps
  refine ⟨hs, ?_, hs.validate⟩
  intro others hanchor hfocus
  exact (Coherent.run axis others).cells_eq_of_ends hs hanchor hfocus

end Selection

end AssignmentGrid
