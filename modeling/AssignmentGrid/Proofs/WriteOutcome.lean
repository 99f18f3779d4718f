import AssignmentGrid.Grid.Edit
import AssignmentGrid.Proofs.WriteEffect

/-!
# How a write ends

A write that is prepared, sent and settled with nothing in between. Each row that is named and
held has exactly one outcome, which decides what its named cells hold in the end; everything else
is as it was before. The report counts each named row once.
-/

namespace AssignmentGrid

/-- Why a row was refused, if it was. -/
def RowOutcome.reason? : RowOutcome → Option String
  | .committed _ => none
  | .failed reason => some reason

/-- The entry that a write leaves in one of its cells. -/
def RowOutcome.entry (value : Float) (week : WeekKey) (former : Option Float) :
    RowOutcome → Option Float
  | .committed none => some value
  | .committed (some stored) => stored.hours[week]?
  | .failed _ => former

/-- The entry that settling leaves in a cell of the write: `former` is what the cell held when the
write was prepared, `current` what it holds by now. -/
def RowOutcome.settledEntry (week : WeekKey) (former current : Option Float) :
    RowOutcome → Option Float
  | .committed none => current
  | .committed (some stored) => stored.hours[week]?
  | .failed _ => former

/-- Where the written value is still in the cell, this is the entry that the write leaves. -/
theorem RowOutcome.settledEntry_some (outcome : RowOutcome) (week : WeekKey)
    (former : Option Float) (value : Float) :
    outcome.settledEntry week former (some value) = outcome.entry value week former := by
  rcases outcome with (_ | stored) | reason
  · rfl
  · rfl
  · rfl

/-- The outcome of a row in a write that was sent. -/
def SentWrite.outcome? (w : SentWrite) (row : RowKey) : Option RowOutcome :=
  (w.settled.find? fun e ↦ e.1.row = row).map Prod.snd

/-! ### Sending -/

theorem RowResult.isOk_ok (id : AssignmentId) : (RowResult.ok id).isOk = true := by
  have hok : ["ok", "success", "updated"].contains "ok".toLower = true := by decide +kernel
  exact hok

theorem RowResult.isOk_failed (id : AssignmentId) (reason : String) :
    (RowResult.failed id reason).isOk = false := by
  have herror : ["ok", "success", "updated"].contains "error".toLower = false := by decide +kernel
  exact herror

section

variable {results : List RowResult} {p : RowPlan}

theorem outcomeIn_of_some {r : RowResult}
    (h : (results.reverse.find? fun r ↦ r.assignment == p.row.assignment) = some r) :
    outcomeIn results p = if r.isOk then .committed none else .failed r.reason := by
  unfold outcomeIn
  rw [h]

theorem outcomeIn_of_none
    (h : (results.reverse.find? fun r ↦ r.assignment == p.row.assignment) = none) :
    outcomeIn results p = .failed "no result returned" := by
  unfold outcomeIn
  rw [h]

end

namespace PreparedWrite

variable {σ : Type} (w : PreparedWrite) (b : Backend σ) (s : σ)

/-- The updates that a batch asks for. -/
def updates : List HoursUpdate := w.plans.map fun p ↦ ⟨p.row.assignment, p.hours⟩

/-- The outcome of a row that is sent by itself. -/
def outcomeAlone (p : RowPlan) : RowOutcome :=
  match (b.updateHours p.row.assignment p.hours s).1 with
  | .ok stored => .committed (some stored)
  | .error e => .failed e.message

/-- The outcome of a row that is sent in a batch. -/
def outcomeInBatch (p : RowPlan) : RowOutcome :=
  match (b.updateMany w.updates s).1 with
  | .ok results => outcomeIn results p
  | .error e => .failed e.message

section

variable {b s} {p : RowPlan}

theorem outcomeAlone_of_ok {stored : Assignment}
    (h : (b.updateHours p.row.assignment p.hours s).1 = .ok stored) :
    outcomeAlone b s p = .committed (some stored) := by
  unfold outcomeAlone
  rw [h]

theorem outcomeAlone_of_error {e : BackendError}
    (h : (b.updateHours p.row.assignment p.hours s).1 = .error e) :
    outcomeAlone b s p = .failed e.message := by
  unfold outcomeAlone
  rw [h]

variable {w}

theorem outcomeInBatch_of_ok {results : List RowResult}
    (h : (b.updateMany w.updates s).1 = .ok results) :
    w.outcomeInBatch b s p = outcomeIn results p := by
  unfold outcomeInBatch
  rw [h]

theorem outcomeInBatch_of_error {e : BackendError} (h : (b.updateMany w.updates s).1 = .error e) :
    w.outcomeInBatch b s p = .failed e.message := by
  unfold outcomeInBatch
  rw [h]

end

/-- Nothing is sent for no row. -/
theorem send_of_nil (h : w.plans = []) : w.send b s = (⟨w, []⟩, s) := by
  unfold send
  rw [h]

/-- A single row is sent by itself. -/
theorem send_of_single {p : RowPlan} (h : w.plans = [p]) :
    w.send b s = (⟨w, [outcomeAlone b s p]⟩, (b.updateHours p.row.assignment p.hours s).2) := by
  unfold send outcomeAlone
  rw [h]
  dsimp only
  split
  · next stored s' hanswer => simp [hanswer]
  · next e s' hanswer => simp [hanswer]

/-- Several rows go in a batch. -/
theorem send_of_batch (h : 2 ≤ w.plans.length) :
    w.send b s = (⟨w, w.plans.map (w.outcomeInBatch b s)⟩, (b.updateMany w.updates s).2) := by
  unfold send outcomeInBatch updates
  split
  · next hnil => simp [hnil] at h
  · next p hone => simp [hone] at h
  · split
    · next results s' hanswer => simp [hanswer]
    · next e s' hanswer => simp [hanswer]

/-- The outcomes of a write that is sent. -/
theorem send_fst :
    (w.send b s).1 = ⟨w, if w.plans.length = 1 then w.plans.map (outcomeAlone b s)
      else w.plans.map (w.outcomeInBatch b s)⟩ := by
  by_cases hbatch : 2 ≤ w.plans.length
  · rw [send_of_batch w b s hbatch, if_neg (by omega)]
  · cases h : w.plans with
    | nil =>
      rw [send_of_nil w b s h]
      rfl
    | cons p rest =>
      have hrest : rest = [] := by
        rw [h, List.length_cons] at hbatch
        exact List.length_eq_zero_iff.mp (by omega)
      subst hrest
      rw [send_of_single w b s h]
      rfl

@[simp] theorem prepared_send : (w.send b s).1.prepared = w := by
  rw [send_fst]

/-- What is settled are the plans, each with the outcome that the answer gives it. -/
theorem settled_send :
    (w.send b s).1.settled = if w.plans.length = 1 then w.plans.map fun p ↦ (p, outcomeAlone b s p)
      else w.plans.map fun p ↦ (p, w.outcomeInBatch b s p) := by
  unfold SentWrite.settled
  rw [send_fst, List.map_prod_left_eq_zip, List.map_prod_left_eq_zip]
  exact apply_ite w.plans.zip _ _ _

/-- Every planned row has an outcome. -/
theorem plans_settled_send : (w.send b s).1.settled.map Prod.fst = w.plans := by
  rw [settled_send]
  split
  · rw [List.map_map]
    exact List.map_id _
  · rw [List.map_map]
    exact List.map_id _

/-- A write touches the same pairs when it is settled as when it was prepared. -/
theorem touched_send_iff (q : PersonId) (week : WeekKey) :
    (∃ e ∈ (w.send b s).1.settled, e.1.Touches q week) ↔ ∃ p ∈ w.plans, p.Touches q week := by
  rw [← plans_settled_send w b s]
  simp

end PreparedWrite

/-! ### Reporting -/

namespace SentWrite

variable (w : SentWrite)

private theorem report_foldl (parts : List (RowPlan × RowOutcome)) (r : WriteReport) :
    parts.foldl (fun r e ↦ r.add e.1.row e.2) r =
      ⟨r.committed ++ (parts.filter fun e ↦ e.2.reason?.isNone).map (fun e ↦ e.1.row),
        r.failed ++ parts.filterMap (fun e ↦ e.2.reason?.map fun reason ↦ (e.1.row, reason)),
        r.skipped⟩ := by
  induction parts generalizing r with
  | nil => simp
  | cons e rest ih =>
    obtain ⟨p, outcome⟩ := e
    rw [List.foldl_cons, ih]
    cases outcome with
    | committed stored? => simp [WriteReport.add, RowOutcome.reason?]
    | failed reason => simp [WriteReport.add, RowOutcome.reason?]

/-- The report lists the settled rows by their outcomes. -/
theorem report_eq :
    w.report =
      { committed := (w.settled.filter fun e ↦ e.2.reason?.isNone).map fun e ↦ e.1.row
        failed := w.settled.filterMap fun e ↦ e.2.reason?.map fun reason ↦ (e.1.row, reason)
        skipped := w.prepared.skipped } := by
  unfold report
  rw [report_foldl]
  rfl

@[simp] theorem skipped_report : w.report.skipped = w.prepared.skipped := by
  rw [report_eq]

/-- Each settled row is reported once, as taken or as refused. -/
theorem perm_report :
    (w.report.committed ++ w.report.failed.map Prod.fst).Perm
      (w.settled.map fun e ↦ e.1.row) := by
  rw [report_eq]
  dsimp only
  induction w.settled with
  | nil => simp
  | cons e rest ih =>
    obtain ⟨p, outcome⟩ := e
    cases outcome with
    | committed stored? => simpa [RowOutcome.reason?] using ih
    | failed reason =>
      simp only [RowOutcome.reason?, List.filter_cons_of_neg, List.filterMap_cons,
        Option.isNone_some, Bool.false_eq_true, not_false_eq_true, Option.map_some, List.map_cons]
      exact List.perm_middle.trans (ih.cons p.row)

variable {w}

/-- Where no row is settled twice, the outcome of a part is that of its row. -/
theorem outcome?_of_mem (h : (w.settled.map fun e ↦ e.1.row).Nodup) {e : RowPlan × RowOutcome}
    (he : e ∈ w.settled) : w.outcome? e.1.row = some e.2 := by
  unfold outcome?
  rw [← List.head?_filter, filter_key_eq h he]
  rfl

/-- An outcome is that of a part. -/
theorem mem_of_outcome? {row : RowKey} {outcome : RowOutcome}
    (h : w.outcome? row = some outcome) : ∃ p, (p, outcome) ∈ w.settled ∧ p.row = row := by
  unfold outcome? at h
  obtain ⟨e, he, rfl⟩ := Option.map_eq_some_iff.mp h
  exact ⟨e.1, List.mem_of_find?_eq_some he, by simpa using List.find?_some he⟩

/-- Reported as taken are the rows with such an outcome. -/
theorem mem_committed_report_iff (h : (w.settled.map fun e ↦ e.1.row).Nodup) (row : RowKey) :
    row ∈ w.report.committed ↔ ∃ stored?, w.outcome? row = some (.committed stored?) := by
  rw [report_eq, List.mem_map]
  constructor
  · rintro ⟨⟨p, outcome⟩, he, rfl⟩
    obtain ⟨he, hnone⟩ := List.mem_filter.mp he
    cases outcome with
    | committed stored? => exact ⟨stored?, outcome?_of_mem h he⟩
    | failed reason => cases hnone
  · rintro ⟨stored?, hout⟩
    obtain ⟨p, hp, rfl⟩ := mem_of_outcome? hout
    exact ⟨(p, .committed stored?), List.mem_filter.mpr ⟨hp, rfl⟩, rfl⟩

/-- Reported as refused are the rows with such an outcome. -/
theorem mem_failed_report_iff (h : (w.settled.map fun e ↦ e.1.row).Nodup) (row : RowKey)
    (reason : String) :
    (row, reason) ∈ w.report.failed ↔ w.outcome? row = some (.failed reason) := by
  rw [report_eq, List.mem_filterMap]
  constructor
  · rintro ⟨⟨p, outcome⟩, he, heq⟩
    cases outcome with
    | committed stored? => cases heq
    | failed reason' =>
      cases heq
      exact outcome?_of_mem h he
  · intro hout
    obtain ⟨p, hp, rfl⟩ := mem_of_outcome? hout
    exact ⟨(p, .failed reason), hp, rfl⟩

/-- Where no row is settled twice, a row is settled by its own part. -/
theorem settling_of_mem (h : (w.settled.map fun e ↦ e.1.row).Nodup) {e : RowPlan × RowOutcome}
    (he : e ∈ w.settled) (hours : Hours) :
    settling w.settled e.1.row hours = e.1.settleHours e.2 hours := by
  unfold settling
  rw [filter_key_eq h he]
  rfl

end SentWrite

/-- A row after its part was settled, whatever the row holds by then: the outcome decides about the
named cells, all others hold what they held. Of the plan only the former entries count. -/
theorem RowPlan.getElem?_settleHours {p : RowPlan} {cells : List Cell} {row : RowKey}
    {former : WeekKey → Option Float}
    (hp : p.former = (weeksOf cells row).map fun week ↦ (week, former week))
    (outcome : RowOutcome) (h : Hours) (week : WeekKey) :
    (p.settleHours outcome h)[week]? =
      if (⟨row, week⟩ : Cell) ∈ cells then outcome.settledEntry week (former week) h[week]?
      else h[week]? := by
  have hweeks : p.weeks = weeksOf cells row := by
    unfold weeks
    rw [hp, List.map_map]
    exact List.map_id _
  unfold settleHours
  split
  · simp only [getElem?_adopt, hweeks, mem_weeksOf, RowOutcome.settledEntry]
  · exact (ite_self _).symm
  · unfold restore
    rw [hp, List.foldl_map, Hours.getElem?_foldl_put h _ former]
    simp only [mem_weeksOf, RowOutcome.settledEntry]

/-! ### Settling -/

/-- Pairs have different first parts where those of the first list differ. -/
theorem nodup_map_fst_zip {α β κ : Type} {key : α → κ} {xs : List α} (h : (xs.map key).Nodup)
    (ys : List β) : ((xs.zip ys).map fun e ↦ key e.1).Nodup := by
  induction xs generalizing ys with
  | nil => simp
  | cons x rest ih =>
    cases ys with
    | nil => simp
    | cons y more =>
      rw [List.map_cons, List.nodup_cons] at h
      rw [List.zip_cons_cons, List.map_cons, List.nodup_cons]
      refine ⟨?_, ih h.2 more⟩
      intro hx
      obtain ⟨e, he, hkey⟩ := List.mem_map.mp hx
      have hfst : e.1 ∈ rest := (List.of_mem_zip he).1
      apply h.1
      exact List.mem_map.mpr ⟨e.1, hfst, hkey⟩

namespace SentWrite

variable {s : Sheet} {cells : List Cell} {value : Float} {w : SentWrite}

/-- A row that is settled once, whatever it holds by then. -/
theorem getElem?_settling (hw : (w.settled.map fun e ↦ e.1.row).Nodup) {p : RowPlan}
    {outcome : RowOutcome} (he : (p, outcome) ∈ w.settled) {former : WeekKey → Option Float}
    (hp : p.former = (weeksOf cells p.row).map fun week ↦ (week, former week)) (h : Hours)
    (week : WeekKey) :
    (settling w.settled p.row h)[week]? =
      if (⟨p.row, week⟩ : Cell) ∈ cells then outcome.settledEntry week (former week) h[week]?
      else h[week]? := by
  rw [settling_of_mem hw he, RowPlan.getElem?_settleHours hp]

/-- No row of a prepared write is settled twice, whatever the outcomes are. -/
theorem nodup_rows_settled (hw : w.prepared = (s.prepare cells value).1) :
    (w.settled.map fun e ↦ e.1.row).Nodup := by
  have hrows := s.nodup_rows_plans cells value
  rw [← hw] at hrows
  exact nodup_map_fst_zip hrows w.outcomes

/-- What is settled are plans of the write. -/
theorem exists_ofRow_of_mem_settled (hw : w.prepared = (s.prepare cells value).1)
    {e : RowPlan × RowOutcome} (he : e ∈ w.settled) :
    ∃ a, s.roster.find? e.1.row = some a ∧ e.1 = RowPlan.ofRow cells value e.1.row a := by
  have hplan : e.1 ∈ (s.prepare cells value).1.plans := hw ▸ (List.of_mem_zip he).1
  obtain ⟨a, -, ha, hpa⟩ := (s.mem_plans_prepare cells value e.1).mp hplan
  exact ⟨a, ha, hpa⟩

/-- A row with an outcome was held when the write was prepared. -/
theorem exists_find?_of_outcome? (hw : w.prepared = (s.prepare cells value).1) {row : RowKey}
    {outcome : RowOutcome} (h : w.outcome? row = some outcome) :
    ∃ a, s.roster.find? row = some a := by
  obtain ⟨p, hp, rfl⟩ := mem_of_outcome? h
  obtain ⟨a, ha, -⟩ := exists_ofRow_of_mem_settled hw hp
  exact ⟨a, ha⟩

/-- A row with an outcome, settled at any later time. -/
theorem getElem?_settling_of_outcome? (hw : w.prepared = (s.prepare cells value).1) {row : RowKey}
    {outcome : RowOutcome} (h : w.outcome? row = some outcome) {a : Assignment}
    (ha : s.roster.find? row = some a) (hours : Hours) (week : WeekKey) :
    (settling w.settled row hours)[week]? =
      if (⟨row, week⟩ : Cell) ∈ cells then
        outcome.settledEntry week a.hours[week]? hours[week]?
      else hours[week]? := by
  obtain ⟨p, hp, rfl⟩ := mem_of_outcome? h
  obtain ⟨a', ha', hpa⟩ := exists_ofRow_of_mem_settled hw hp
  rw [ha] at ha'
  obtain rfl := Option.some.inj ha'
  have hformer : p.former = (weeksOf cells p.row).map fun week ↦ (week, a.hours[week]?) :=
    congrArg RowPlan.former hpa
  exact getElem?_settling (nodup_rows_settled hw) hp hformer hours week

end SentWrite

end AssignmentGrid
