import Mathlib.Data.List.Induction
import AssignmentGrid.Proofs.WriteEnd

/-!
# Grouping and sending

The cells of a write are sorted into groups in one pass, a group for each row. Which groups there
are decides what is asked of the backend, and its answer is read group by group. Specification
`SPEC_FULL.md:128–129,133–134,143–144`.
-/

namespace AssignmentGrid

/-! ### One pass over the cells -/

/-- Enter a cell: into the group of its row unless its week is there, or as a new group behind all
others. -/
def enterCell (groups : List (RowKey × List WeekKey)) (c : Cell) : List (RowKey × List WeekKey) :=
  if c.row ∈ groups.map Prod.fst then
    groups.map fun g ↦ if g.1 = c.row ∧ c.week ∉ g.2 then (g.1, g.2 ++ [c.week]) else g
  else groups ++ [(c.row, [c.week])]

/-- One more cell may name one more row. -/
theorem rowsOf_append_singleton (cells : List Cell) (c : Cell) :
    rowsOf (cells ++ [c]) =
      if c.row ∈ rowsOf cells then rowsOf cells else rowsOf cells ++ [c.row] := by
  unfold rowsOf
  rw [List.map_append, List.map_singleton, firstOccurrences_append_singleton]
  simp only [mem_firstOccurrences]

/-- One more cell may give its row one more week. -/
theorem weeksOf_append_singleton (cells : List Cell) (c : Cell) (row : RowKey) :
    weeksOf (cells ++ [c]) row =
      if row = c.row ∧ c.week ∉ weeksOf cells row then weeksOf cells row ++ [c.week]
      else weeksOf cells row := by
  unfold weeksOf
  rw [List.filter_append, List.map_append]
  by_cases hrow : row = c.row
  · have hlast : ([c].filter fun d ↦ d.row = row).map Cell.week = [c.week] := by simp [hrow]
    rw [hlast, firstOccurrences_append_singleton]
    by_cases hweek : c.week ∈ (cells.filter fun d ↦ d.row = row).map Cell.week
    · rw [if_pos hweek, if_neg fun h ↦ h.2 (mem_firstOccurrences.mpr hweek)]
    · rw [if_neg hweek, if_pos ⟨hrow, mt mem_firstOccurrences.mp hweek⟩]
  · have hlast : ([c].filter fun d ↦ d.row = row).map Cell.week = [] := by simp [Ne.symm hrow]
    rw [hlast, List.append_nil, if_neg fun h ↦ hrow h.1]

/-- Entering one more cell gives the groups of all cells. -/
theorem groupCells_append_singleton (cells : List Cell) (c : Cell) :
    groupCells (cells ++ [c]) = enterCell (groupCells cells) c := by
  have hrows : (groupCells cells).map Prod.fst = rowsOf cells := by
    rw [groupCells_eq, List.map_map]
    exact List.map_id _
  unfold enterCell
  rw [hrows, groupCells_eq, groupCells_eq, rowsOf_append_singleton]
  by_cases hrow : c.row ∈ rowsOf cells
  · rw [if_pos hrow, if_pos hrow, List.map_map]
    refine List.map_congr_left fun row _ ↦ ?_
    rw [weeksOf_append_singleton, Function.comp_apply, apply_ite (Prod.mk row)]
  · -- a row that was not named has no weeks, and all others keep theirs
    have hfresh : weeksOf cells c.row = [] := by
      rw [List.eq_nil_iff_forall_not_mem]
      intro week hweek
      exact hrow (mem_rowsOf.mpr ⟨week, mem_weeksOf.mp hweek⟩)
    have hweeks : weeksOf (cells ++ [c]) c.row = [c.week] := by
      rw [weeksOf_append_singleton, hfresh]
      simp
    rw [if_neg hrow, if_neg hrow, List.map_append, List.map_singleton, hweeks]
    congr 1
    refine List.map_congr_left fun row hmem ↦ ?_
    rw [weeksOf_append_singleton, if_neg]
    rintro ⟨rfl, -⟩
    exact hrow hmem

/-- The groups of cells are what entering one cell after the other gives. -/
theorem groupCells_eq_foldl (cells : List Cell) : groupCells cells = cells.foldl enterCell [] := by
  induction cells using List.reverseRecOn with
  | nil => rfl
  | append_singleton cells c ih =>
    rw [groupCells_append_singleton, ih, List.foldl_append, List.foldl_cons, List.foldl_nil]

/-! ### Answers to a batch -/

/-- Where an answer has one entry for an assignment at most, neither the order of the entries nor
those for other assignments matter. -/
theorem find?_reverse_eq_of_perm {results results' others : List RowResult}
    (h : (results.map RowResult.assignment).Nodup) (hperm : results'.Perm (results ++ others))
    {id : AssignmentId} (hothers : ∀ r ∈ others, r.assignment ≠ id) :
    (results'.reverse.find? fun r ↦ r.assignment == id) =
      results.find? fun r ↦ r.assignment == id := by
  have hnone : (others.filter fun r ↦ r.assignment == id) = [] := by
    rw [List.filter_eq_nil_iff]
    intro r hr
    rw [beq_iff_eq]
    exact hothers r hr
  have hsame : (results'.reverse.filter fun r ↦ r.assignment == id).Perm
      (results.filter fun r ↦ r.assignment == id) := by
    have hreversed := (List.reverse_perm results').trans hperm
    have hfiltered := hreversed.filter fun r ↦ r.assignment == id
    rwa [List.filter_append, hnone, List.append_nil] at hfiltered
  rw [← List.head?_filter, ← List.head?_filter]
  by_cases hid : ∃ r ∈ results, r.assignment = id
  · obtain ⟨r, hr, rfl⟩ := hid
    have honly : (results.filter fun s ↦ s.assignment == r.assignment) = [r] := by
      simp only [beq_eq_decide]
      exact filter_key_eq h hr
    rw [honly, List.perm_singleton] at hsame
    rw [hsame, honly]
  · have hnil : (results.filter fun r ↦ r.assignment == id) = [] := by
      rw [List.filter_eq_nil_iff]
      intro r hr
      rw [beq_iff_eq]
      exact fun hrid ↦ hid ⟨r, hr, hrid⟩
    rw [hnil, List.perm_nil] at hsame
    rw [hsame, hnil]

/-- So it is with the outcome of a plan. -/
theorem outcomeIn_eq_of_perm {results results' others : List RowResult}
    (h : (results.map RowResult.assignment).Nodup) (hperm : results'.Perm (results ++ others))
    {p : RowPlan} (hothers : ∀ r ∈ others, r.assignment ≠ p.row.assignment) :
    outcomeIn results' p = outcomeIn results p := by
  have hown : results.Perm (results ++ []) := by rw [List.append_nil]
  unfold outcomeIn
  rw [find?_reverse_eq_of_perm h hperm hothers,
    find?_reverse_eq_of_perm h hown fun r hr ↦ absurd hr List.not_mem_nil]

/-! ### The groups of a write -/

/-- What the plans of a write to some cells are. -/
structure GroupsCells (s : Sheet) (cells : List Cell) (value : Float) (plans : List RowPlan) :
    Prop where
  /-- The plans are made for the groups that one pass over the cells gives. -/
  grouped : plans = (cells.foldl enterCell []).filterMap (s.plan? value)
  /-- There is a plan for each row that is named and held, -/
  mem_rows : ∀ row, row ∈ plans.map RowPlan.row ↔
    (∃ c ∈ cells, c.row = row) ∧ (s.roster.find? row).isSome
  /-- one and no more, -/
  nodup_rows : (plans.map RowPlan.row).Nodup
  /-- in the order in which the rows are named first. -/
  ordered : (plans.map RowPlan.row).Pairwise fun a b ↦
    (cells.map Cell.row).idxOf a < (cells.map Cell.row).idxOf b
  /-- No assignment is planned twice, even where one is named under several people. -/
  nodup_assignments : (plans.map fun p ↦ p.row.assignment).Nodup
  plan : ∀ p ∈ plans, ∃ a, s.roster.find? p.row = some a ∧
    -- the weeks of a plan are those named with its row, each of them once,
    p.weeks.Nodup ∧ (∀ week, week ∈ p.weeks ↔ (⟨p.row, week⟩ : Cell) ∈ cells) ∧
    -- with what the row had there,
    (∀ week former, (week, former) ∈ p.former → former = a.hours[week]?) ∧
    -- and there the hours are overwritten
    ∀ week : WeekKey, p.hours[week]? =
      if (⟨p.row, week⟩ : Cell) ∈ cells then some value else a.hours[week]?

/-- What is asked of the backend for a write, and how the answer is read. -/
structure SendsPlans (w : PreparedWrite) : Prop where
  /-- Nothing is asked for no plan. -/
  nothing : w.plans = [] → ∀ {σ : Type} (b : Backend σ) (state : Logged σ),
    (w.send b.logged state).2 = state
  /-- A single plan is asked for by itself. -/
  single : ∀ p, w.plans = [p] → ∀ {σ : Type} (b : Backend σ) (state : Logged σ),
    (w.send b.logged state).2.calls = state.calls ++ [.updateHours p.row.assignment p.hours]
  /-- Several plans are asked for at once, each of them listed once. -/
  batch : 2 ≤ w.plans.length → ∀ {σ : Type} (b : Backend σ) (state : Logged σ),
    (w.send b.logged state).2.calls =
      state.calls ++ [.updateMany (w.plans.map fun p ↦ ⟨p.row.assignment, p.hours⟩)]
  /-- Each plan has one outcome, -/
  length : ∀ {σ : Type} (b : Backend σ) (state : σ),
    (w.send b state).1.outcomes.length = w.plans.length
  /-- and settling looks at them all. -/
  settled : ∀ {σ : Type} (b : Backend σ) (state : σ),
    (w.send b state).1.settled.map Prod.fst = w.plans
  /-- Answers without a second entry for an assignment lead to the same outcomes when entries
  change places and when entries for other assignments join them. -/
  answers : 2 ≤ w.plans.length → ∀ {σ τ : Type} (b : Backend σ) (state : σ) (b' : Backend τ)
    (state' : τ) (results results' others : List RowResult),
    (b.updateMany w.updates state).1 = .ok results →
    (b'.updateMany w.updates state').1 = .ok results' →
    (results.map RowResult.assignment).Nodup →
    results'.Perm (results ++ others) →
    (∀ r ∈ others, r.assignment ∉ w.plans.map fun p ↦ p.row.assignment) →
    (w.send b' state').1.outcomes = (w.send b state).1.outcomes

/-- The plans of a prepared write. -/
theorem groupsCells_plans_prepare (s : Sheet) (cells : List Cell) (value : Float) :
    GroupsCells s cells value (s.prepare cells value).1.plans where
  grouped := congrArg (List.filterMap (s.plan? value)) (groupCells_eq_foldl cells)
  mem_rows row := by
    rw [s.rows_plans_prepare, List.mem_filter, rowsOf, mem_firstOccurrences, List.mem_map]
  nodup_rows := s.nodup_rows_plans cells value
  ordered := by
    rw [s.rows_plans_prepare]
    exact (pairwise_firstOccurrences _).filter _
  nodup_assignments := s.nodup_assignments_plans cells value
  plan p hp := by
    obtain ⟨a, -, ha, hpa⟩ := (s.mem_plans_prepare cells value p).mp hp
    have hweeks : p.weeks = weeksOf cells p.row := by
      rw [hpa]
      exact RowPlan.weeks_ofRow cells value p.row a
    refine ⟨a, ha, ?_, fun week ↦ ?_, fun week former hformer ↦ ?_, ?_⟩
    · rw [hweeks]
      exact nodup_firstOccurrences _
    · rw [hweeks, mem_weeksOf]
    · rw [hpa, RowPlan.ofRow, List.mem_map] at hformer
      obtain ⟨_, -, heq⟩ := hformer
      cases heq
      rfl
    · obtain ⟨a', ha', hhours⟩ := exists_find?_of_mem_plans_prepare s cells value hp
      obtain rfl : a' = a := Option.some.inj (ha'.symm.trans ha)
      exact hhours

/-- Sending, whatever was prepared. -/
theorem sendsPlans (w : PreparedWrite) : SendsPlans w where
  nothing hnil _ b state := by rw [w.send_of_nil b.logged state hnil]
  single p hone _ b state := by
    rw [w.send_of_single b.logged state hone]
    rfl
  batch hbatch _ b state := by
    rw [w.send_of_batch b.logged state hbatch]
    rfl
  length b state := by
    rw [w.send_fst]
    split
    · exact List.length_map _
    · exact List.length_map _
  settled b state := w.plans_settled_send b state
  answers hbatch _ _ b state b' state' results results' others hanswer hanswer' hnodup hperm
      hothers := by
    rw [w.send_of_batch b' state' hbatch, w.send_of_batch b state hbatch]
    refine List.map_congr_left fun p hp ↦ ?_
    unfold PreparedWrite.outcomeInBatch
    rw [hanswer, hanswer']
    refine outcomeIn_eq_of_perm hnodup hperm fun r hr hrp ↦ hothers r hr ?_
    rw [hrp]
    exact List.mem_map_of_mem hp

/-- What is grouped is what is sent: whatever is held and whatever cells are written to, each row
that is named and held has one plan, and each plan is asked for once and has one outcome. -/
theorem write_groups_and_sends (s : Sheet) (cells : List Cell) (value : Float) :
    GroupsCells s cells value (s.prepare cells value).1.plans ∧
      SendsPlans (s.prepare cells value).1 :=
  ⟨groupsCells_plans_prepare s cells value, sendsPlans (s.prepare cells value).1⟩

end AssignmentGrid
