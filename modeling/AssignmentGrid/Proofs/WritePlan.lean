import Mathlib.Data.List.Nodup
import AssignmentGrid.HoursWrite
import AssignmentGrid.Proofs.RosterRevision

/-!
# The plans of a write

Which rows and weeks a list of cells names, which plans a write makes for them, and what settling
a plan does to the hours of a row, week by week.
-/

namespace AssignmentGrid

/-- The rows to which cells belong, each once. -/
def rowsOf (cells : List Cell) : List RowKey := firstOccurrences (cells.map Cell.row)

/-- The weeks of a row that occur among cells, each once. -/
def weeksOf (cells : List Cell) (row : RowKey) : List WeekKey :=
  firstOccurrences ((cells.filter fun c ↦ c.row = row).map Cell.week)

/-! ### Cells -/

theorem groupCells_eq (cells : List Cell) :
    groupCells cells = (rowsOf cells).map fun row ↦ (row, weeksOf cells row) := rfl

/-- The weeks of a row are those whose cell occurs. -/
@[simp] theorem mem_weeksOf {cells : List Cell} {row : RowKey} {week : WeekKey} :
    week ∈ weeksOf cells row ↔ (⟨row, week⟩ : Cell) ∈ cells := by
  unfold weeksOf
  rw [mem_firstOccurrences, List.mem_map]
  constructor
  · rintro ⟨c, hc, rfl⟩
    rw [List.mem_filter, decide_eq_true_iff] at hc
    rw [← hc.2]
    exact hc.1
  · intro h
    exact ⟨⟨row, week⟩, List.mem_filter.mpr ⟨h, by simp⟩, rfl⟩

/-- A row is named by one of its cells. -/
theorem mem_rowsOf {cells : List Cell} {row : RowKey} :
    row ∈ rowsOf cells ↔ ∃ week, (⟨row, week⟩ : Cell) ∈ cells := by
  unfold rowsOf
  rw [mem_firstOccurrences, List.mem_map]
  constructor
  · rintro ⟨c, hc, rfl⟩
    exact ⟨c.week, hc⟩
  · rintro ⟨week, h⟩
    exact ⟨⟨row, week⟩, h, rfl⟩

theorem nodup_rowsOf (cells : List Cell) : (rowsOf cells).Nodup := nodup_firstOccurrences _

/-- Cells of one row name that row. -/
theorem rowsOf_eq_singleton {cells : List Cell} {row : RowKey} (hcells : cells ≠ [])
    (hrow : ∀ c ∈ cells, c.row = row) : rowsOf cells = [row] := by
  rw [← List.perm_singleton,
    List.perm_ext_iff_of_nodup (nodup_rowsOf cells) (List.nodup_singleton row)]
  intro other
  rw [mem_rowsOf, List.mem_singleton]
  constructor
  · rintro ⟨week, hc⟩
    exact hrow _ hc
  · rintro rfl
    obtain ⟨c, hc⟩ := List.exists_mem_of_ne_nil cells hcells
    refine ⟨c.week, ?_⟩
    rw [← hrow c hc]
    exact hc

/-! ### Hours week by week -/

namespace Hours

/-- Replacing one entry changes that entry and no other. -/
theorem getElem?_put (h : Hours) (week other : WeekKey) (value : Option Float) :
    (h.put week value)[other]? = if other = week then value else h[other]? := by
  cases value with
  | none =>
    rw [put, Std.ExtTreeMap.getElem?_erase]
    by_cases hw : week = other
    · simp [hw]
    · simp [hw, Ne.symm hw]
  | some x =>
    rw [put, Std.ExtTreeMap.getElem?_insert]
    by_cases hw : week = other
    · simp [hw]
    · simp [hw, Ne.symm hw]

/-- Replacing the entries of some weeks changes those entries and no others. -/
theorem getElem?_foldl_put (h : Hours) (weeks : List WeekKey) (value : WeekKey → Option Float)
    (week : WeekKey) :
    (weeks.foldl (fun h w ↦ h.put w (value w)) h)[week]? =
      if week ∈ weeks then value week else h[week]? := by
  induction weeks generalizing h with
  | nil => simp
  | cons first rest ih =>
    rw [List.foldl_cons, ih, getElem?_put]
    by_cases hr : week ∈ rest
    · simp [hr]
    · by_cases hf : week = first
      · simp [hf]
      · simp [hr, hf]

/-- Hours are known from their entries. -/
theorem ext_getElem? {h g : Hours} (hg : ∀ week : WeekKey, h[week]? = g[week]?) : h = g :=
  Std.ExtTreeMap.ext_getElem? fun {week} ↦ hg week

end Hours

namespace RowPlan

/-- The plan for writing a value to the cells of a row that is held. -/
def ofRow (cells : List Cell) (value : Float) (row : RowKey) (a : Assignment) : RowPlan where
  row := row
  former := (weeksOf cells row).map fun week ↦ (week, a.hours[week]?)
  hours := a.hours.fill (weeksOf cells row) value

@[simp] theorem weeks_ofRow (cells : List Cell) (value : Float) (row : RowKey) (a : Assignment) :
    (ofRow cells value row a).weeks = weeksOf cells row := by
  simp [weeks, ofRow, Function.comp_def]

/-- The written weeks have the written value, all others stay. -/
theorem getElem?_hours_ofRow (cells : List Cell) (value : Float) (row : RowKey) (a : Assignment)
    (week : WeekKey) :
    (ofRow cells value row a).hours[week]? =
      if (⟨row, week⟩ : Cell) ∈ cells then some value else a.hours[week]? := by
  simp only [ofRow, Hours.getElem?_fill, mem_weeksOf]

/-- For cells of one row, all their weeks are written. -/
theorem hours_ofRow_of_one_row {cells : List Cell} {row : RowKey} (hrow : ∀ c ∈ cells, c.row = row)
    (value : Float) (a : Assignment) :
    (ofRow cells value row a).hours = a.hours.fill (cells.map Cell.week) value := by
  refine Hours.ext_getElem? fun week ↦ ?_
  have hmem : (⟨row, week⟩ : Cell) ∈ cells ↔ week ∈ cells.map Cell.week := by
    rw [List.mem_map]
    constructor
    · exact fun hc ↦ ⟨_, hc, rfl⟩
    · rintro ⟨c, hc, rfl⟩
      rw [← hrow c hc]
      exact hc
  simp only [getElem?_hours_ofRow, Hours.getElem?_fill, hmem]

/-- Adopting a stored row takes over its entries in the written weeks, absent ones included. -/
theorem getElem?_adopt (p : RowPlan) (stored h : Hours) (week : WeekKey) :
    (p.adopt stored h)[week]? = if week ∈ p.weeks then stored[week]? else h[week]? :=
  Hours.getElem?_foldl_put h p.weeks (fun week ↦ stored[week]?) week

/-- Restoring leaves all but the written weeks. -/
theorem getElem?_restore_of_notMem (p : RowPlan) (h : Hours) {week : WeekKey}
    (hweek : week ∉ p.weeks) : (p.restore h)[week]? = h[week]? := by
  obtain ⟨row, former, hours⟩ := p
  simp only [weeks] at hweek
  simp only [restore]
  induction former generalizing h with
  | nil => rfl
  | cons e rest ih =>
    rw [List.map_cons, List.mem_cons, not_or] at hweek
    rw [List.foldl_cons, ih _ hweek.2, Hours.getElem?_put, if_neg hweek.1]

/-- Settling leaves all but the written weeks. -/
theorem getElem?_settleHours_of_notMem (p : RowPlan) (outcome : RowOutcome) (h : Hours)
    {week : WeekKey} (hweek : week ∉ p.weeks) :
    (p.settleHours outcome h)[week]? = h[week]? := by
  unfold settleHours
  split
  · rw [getElem?_adopt, if_neg hweek]
  · rfl
  · exact getElem?_restore_of_notMem p h hweek

end RowPlan

/-! ### Plans -/

namespace Sheet

variable (s : Sheet) (cells : List Cell) (value : Float)

/-- The plans are those of the held rows among the named ones. -/
theorem plans_prepare :
    (s.prepare cells value).1.plans =
      (rowsOf cells).filterMap fun row ↦
        (s.roster.find? row).map (RowPlan.ofRow cells value row) := by
  unfold prepare
  dsimp only
  rw [groupCells_eq, List.filterMap_map]
  rfl

/-- Skipped are the named rows that are not held. -/
theorem skipped_prepare :
    (s.prepare cells value).1.skipped =
      (rowsOf cells).filter fun row ↦ (s.roster.find? row).isNone := by
  unfold prepare
  dsimp only
  rw [groupCells_eq, List.map_map]
  congr 1
  exact List.map_id _

/-- There is a plan for each row that is named and held. -/
theorem mem_plans_prepare (p : RowPlan) :
    p ∈ (s.prepare cells value).1.plans ↔
      ∃ a, p.row ∈ rowsOf cells ∧ s.roster.find? p.row = some a ∧
        p = RowPlan.ofRow cells value p.row a := by
  rw [plans_prepare, List.mem_filterMap]
  constructor
  · rintro ⟨row, hrow, hp⟩
    obtain ⟨a, ha, rfl⟩ := Option.map_eq_some_iff.mp hp
    exact ⟨a, hrow, ha, rfl⟩
  · rintro ⟨a, hrow, ha, hp⟩
    refine ⟨p.row, hrow, ?_⟩
    rw [ha, Option.map_some, ← hp]

/-- The planned rows in the order in which they are named. -/
theorem rows_plans_prepare :
    (s.prepare cells value).1.plans.map RowPlan.row =
      (rowsOf cells).filter fun row ↦ (s.roster.find? row).isSome := by
  rw [plans_prepare]
  induction rowsOf cells with
  | nil => rfl
  | cons row rest ih =>
    cases h : s.roster.find? row with
    | none => simp [h, ih]
    | some a => simp [h, ih, RowPlan.ofRow]

/-- No row is planned twice. -/
theorem nodup_rows_plans : ((s.prepare cells value).1.plans.map RowPlan.row).Nodup := by
  rw [rows_plans_prepare]
  exact (nodup_rowsOf cells).filter _

/-- No assignment is planned twice. -/
theorem nodup_assignments_plans :
    ((s.prepare cells value).1.plans.map fun p ↦ p.row.assignment).Nodup := by
  have hrows := s.nodup_rows_plans cells value
  apply hrows.of_map.map_on
  intro p hp q hq hpq
  obtain ⟨a, -, ha, -⟩ := (s.mem_plans_prepare cells value p).mp hp
  obtain ⟨b, -, hb, -⟩ := (s.mem_plans_prepare cells value q).mp hq
  exact List.inj_on_of_nodup_map hrows hp hq (Roster.row_eq_of_find? ha hb hpq)

end Sheet

end AssignmentGrid
