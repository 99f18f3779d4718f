import AssignmentGrid.Proofs.Action
import AssignmentGrid.Proofs.WriteOutcome

/-!
# The end of one write

What a write leaves behind when nothing comes between its three steps, for any roster, any cells and
any answer of the backend. Specification `SPEC_FULL.md:127–145`.
-/

namespace AssignmentGrid

/-- What one write leaves behind: `sent` is the write as it was sent, `report` and `final` are
what settling gives. -/
structure WriteEnd {σ : Type} (g : Grid) (b : Backend σ) (cells : List Cell) (value : Float)
    (s : σ) (sent : SentWrite) (report : WriteReport) (final : Grid) : Prop where
  /-- Of the roster only the hours of rows that are found are revised, in this way: -/
  rows : ∃ f : RowKey → Hours → Hours, final.roster = g.roster.revise f ∧
    ∀ row a, g.roster.find? row = some a →
      -- a row that is not named keeps all its hours,
      ((∀ c ∈ cells, c.row ≠ row) → f row a.hours = a.hours) ∧
      -- and so does a row that was refused;
      (∀ reason, sent.outcome? row = some (.failed reason) → f row a.hours = a.hours) ∧
      -- a row that was taken without coming back has the value in its named cells,
      (sent.outcome? row = some (.committed none) → ∀ week,
        (f row a.hours)[week]? =
          if (⟨row, week⟩ : Cell) ∈ cells then some value else a.hours[week]?) ∧
      -- and one that came back has there what came back.
      (∀ stored, sent.outcome? row = some (.committed (some stored)) → ∀ week,
        (f row a.hours)[week]? =
          if (⟨row, week⟩ : Cell) ∈ cells then stored.hours[week]? else a.hours[week]?)
  /-- Each row that is named and held has an outcome. -/
  answered : ∀ c ∈ cells, (g.roster.find? c.row).isSome → (sent.outcome? c.row).isSome
  /-- A plan has the written value in its named cells and all other hours as the row has them. -/
  planned : ∀ p ∈ sent.prepared.plans, ∃ a, g.roster.find? p.row = some a ∧
    ∀ week : WeekKey, p.hours[week]? =
      if (⟨p.row, week⟩ : Cell) ∈ cells then some value else a.hours[week]?
  /-- A row comes back when its plan is the only one to be sent. -/
  alone : ∀ row stored, sent.outcome? row = some (.committed (some stored)) →
    ∃ p, sent.prepared.plans = [p] ∧ p.row = row ∧
      (b.updateHours row.assignment p.hours s).1 = .ok stored
  /-- The answer to the only plan is the outcome of its row. -/
  answered_alone : ∀ p, sent.prepared.plans = [p] →
    (∀ stored, (b.updateHours p.row.assignment p.hours s).1 = .ok stored →
      sent.outcome? p.row = some (.committed (some stored))) ∧
    ∀ e, (b.updateHours p.row.assignment p.hours s).1 = .error e →
      sent.outcome? p.row = some (.failed e.message)
  /-- A row is taken without coming back when it is one of several and the last entry for it in
  the answer says so. -/
  batched : ∀ row, sent.outcome? row = some (.committed none) →
    2 ≤ sent.prepared.plans.length ∧
      ∃ results, (b.updateMany sent.prepared.updates s).1 = .ok results ∧
        ∃ r, (results.reverse.find? fun r ↦ r.assignment == row.assignment) = some r ∧ r.isOk
  /-- In an answer to several plans the last entry for a row is its outcome. A row without an entry
  is refused, and without an answer they all are. -/
  answered_together : 2 ≤ sent.prepared.plans.length → ∀ p ∈ sent.prepared.plans,
    let last? (results : List RowResult) :=
      results.reverse.find? fun r ↦ r.assignment == p.row.assignment
    (∀ results, (b.updateMany sent.prepared.updates s).1 = .ok results →
      (∀ r, last? results = some r →
        sent.outcome? p.row = some (if r.isOk then .committed none else .failed r.reason)) ∧
      (last? results = none → sent.outcome? p.row = some (.failed "no result returned"))) ∧
    ∀ e, (b.updateMany sent.prepared.updates s).1 = .error e →
      sent.outcome? p.row = some (.failed e.message)
  /-- The reported rows are the named ones, each of them once. -/
  counted : (report.committed ++ report.failed.map Prod.fst ++ report.skipped).Perm (rowsOf cells)
  /-- The numbers of reported rows add up to the number of named rows. -/
  adds_up : report.committed.length + report.failed.length + report.skipped.length =
    (rowsOf cells).length
  /-- Reported as taken are the rows with such an outcome. -/
  committed : ∀ row, row ∈ report.committed ↔
    ∃ stored?, sent.outcome? row = some (.committed stored?)
  /-- Reported as refused are the rows with such an outcome. -/
  failed : ∀ row reason, (row, reason) ∈ report.failed ↔
    sent.outcome? row = some (.failed reason)
  /-- Skipped are the named rows that are not held. -/
  skipped : ∀ row, row ∈ report.skipped ↔
    row ∈ rowsOf cells ∧ g.roster.find? row = none
  /-- The user is told of all refused rows in one notice, and that analyses are out of date when a
  row was taken. -/
  events : ∃ new, final.events = g.events ++ new ∧
    Event.notices new =
      (if report.failed.length = 0 then []
        else [(.error, failureMessage report.failed.length)]) ∧
    new.count .analyticsInvalidated = if report.committed.length = 0 then 0 else 1

/-! ### Parts of the proof -/

section

variable (s : Sheet) (cells : List Cell) (value : Float) {σ : Type} (b : Backend σ) (state : σ)

/-- The rows of a write that was sent are those named and held. -/
theorem rows_settled_send :
    (((s.prepare cells value).1.send b state).1.settled.map fun e ↦ e.1.row) =
      (rowsOf cells).filter fun row ↦ (s.roster.find? row).isSome := by
  rw [← s.rows_plans_prepare cells value,
    ← PreparedWrite.plans_settled_send (s.prepare cells value).1 b state, List.map_map]
  rfl

theorem nodup_rows_settled_send :
    (((s.prepare cells value).1.send b state).1.settled.map fun e ↦ e.1.row).Nodup :=
  SentWrite.nodup_rows_settled (PreparedWrite.prepared_send _ b state)

/-- A held row after the write: its outcome decides about the named cells, all others are as they
were. -/
theorem getElem?_settling_overwriting {row : RowKey} {outcome : RowOutcome} {a : Assignment}
    (h : ((s.prepare cells value).1.send b state).1.outcome? row = some outcome)
    (ha : s.roster.find? row = some a) (week : WeekKey) :
    (settling ((s.prepare cells value).1.send b state).1.settled row
        (Sheet.overwriting (s.prepare cells value).1.plans row a.hours))[week]? =
      if (⟨row, week⟩ : Cell) ∈ cells then outcome.entry value week a.hours[week]?
      else a.hours[week]? := by
  rw [SentWrite.getElem?_settling_of_outcome? (PreparedWrite.prepared_send _ b state) h ha]
  split
  · next hcell =>
    rw [s.getElem?_overwriting cells value ha, if_pos hcell, RowOutcome.settledEntry_some]
  · next hcell => rw [s.getElem?_overwriting cells value ha, if_neg hcell]

/-- A row that was refused has its hours back. -/
theorem settling_overwriting_of_failed {row : RowKey} {reason : String} {a : Assignment}
    (h : ((s.prepare cells value).1.send b state).1.outcome? row = some (.failed reason))
    (ha : s.roster.find? row = some a) :
    settling ((s.prepare cells value).1.send b state).1.settled row
        (Sheet.overwriting (s.prepare cells value).1.plans row a.hours) = a.hours := by
  apply Hours.ext_getElem?
  intro week
  rw [getElem?_settling_overwriting s cells value b state h ha]
  exact ite_self _

/-- A row that is not named keeps its hours. -/
theorem settling_overwriting_of_not_named {row : RowKey} {a : Assignment}
    (ha : s.roster.find? row = some a) (hrow : ∀ c ∈ cells, c.row ≠ row) :
    settling ((s.prepare cells value).1.send b state).1.settled row
        (Sheet.overwriting (s.prepare cells value).1.plans row a.hours) = a.hours := by
  apply Hours.ext_getElem?
  intro week
  have hcell : (⟨row, week⟩ : Cell) ∉ cells := fun h ↦ hrow _ h rfl
  rw [Sheet.getElem?_settling_of_not_touched, s.getElem?_overwriting cells value ha,
    if_neg hcell]
  intro e he hrow'
  have hmem : row ∈ (rowsOf cells).filter fun row ↦ (s.roster.find? row).isSome := by
    rw [← rows_settled_send s cells value b state, ← hrow']
    exact List.mem_map_of_mem he
  obtain ⟨w, hw⟩ := mem_rowsOf.mp (List.mem_filter.mp hmem).1
  exact absurd rfl (hrow _ hw)

/-- Each row that is named and held has an outcome. -/
theorem isSome_outcome?_send {c : Cell} (hc : c ∈ cells)
    (hheld : (s.roster.find? c.row).isSome) :
    (((s.prepare cells value).1.send b state).1.outcome? c.row).isSome := by
  have hrow : c.row ∈ (rowsOf cells).filter fun row ↦ (s.roster.find? row).isSome :=
    List.mem_filter.mpr ⟨mem_rowsOf.mpr ⟨c.week, hc⟩, hheld⟩
  rw [← rows_settled_send s cells value b state, List.mem_map] at hrow
  obtain ⟨e, he, hrow⟩ := hrow
  rw [← hrow, SentWrite.outcome?_of_mem (nodup_rows_settled_send s cells value b state) he]
  rfl

/-- A row that is held has an outcome, unless it is not named. -/
theorem outcome?_send_or_not_named {row : RowKey} {a : Assignment}
    (ha : s.roster.find? row = some a) :
    (∃ outcome, ((s.prepare cells value).1.send b state).1.outcome? row = some outcome) ∨
      ∀ c ∈ cells, c.row ≠ row := by
  by_cases hnamed : ∃ c ∈ cells, c.row = row
  · obtain ⟨c, hc, rfl⟩ := hnamed
    have hheld : (s.roster.find? c.row).isSome := by
      rw [ha]
      rfl
    have hanswered := isSome_outcome?_send s cells value b state hc hheld
    exact .inl (Option.isSome_iff_exists.mp hanswered)
  · exact .inr fun c hc hrow ↦ hnamed ⟨c, hc, hrow⟩

/-- The rows after a write that nothing interrupts. -/
theorem Sheet.roster_write :
    (s.write b cells value state).1.roster = s.roster.revise fun row h ↦
      settling ((s.prepare cells value).1.send b state).1.settled row
        (Sheet.overwriting (s.prepare cells value).1.plans row h) := by
  unfold Sheet.write
  rw [SentWrite.roster_settle, Sheet.roster_prepare, Roster.revise_revise]

/-- Writing hours revises the rows of the grid. -/
theorem Grid.roster_applyHours (g : Grid) (b : Backend σ) (s : σ) (cells : List Cell)
    (value : Float) :
    let prepared := (g.sheet.prepare cells (Hours.clamp g.hoursCap value)).1
    (g.applyHours b cells value s).grid.roster = g.roster.revise fun row h ↦
      settling (prepared.send b s).1.settled row (Sheet.overwriting prepared.plans row h) := by
  intro prepared
  have hwrite := congrArg Prod.fst (g.applyHours_eq_write b cells value s)
  exact (congrArg Sheet.roster hwrite).trans (g.sheet.roster_write cells _ b s)

/-- A write of which no row is taken leaves the rows as they were. -/
theorem Sheet.roster_write_of_refused
    (hrefused : ((s.prepare cells value).1.send b state).1.report.committed = []) :
    (s.write b cells value state).1.roster = s.roster := by
  rw [Sheet.roster_write]
  refine (Roster.revise_congr fun row a ha ↦ ?_).trans s.roster.revise_id
  rcases outcome?_send_or_not_named s cells value b state ha with ⟨outcome, houtcome⟩ | hnot
  · cases outcome with
    | failed reason => exact settling_overwriting_of_failed s cells value b state houtcome ha
    | committed stored? =>
      have htaken := (SentWrite.mem_committed_report_iff
        (nodup_rows_settled_send s cells value b state) row).mpr ⟨stored?, houtcome⟩
      rw [hrefused] at htaken
      exact absurd htaken List.not_mem_nil
  · exact settling_overwriting_of_not_named s cells value b state ha hnot

/-- Of a plan the hours in the named cells are the written value. -/
theorem exists_find?_of_mem_plans_prepare {p : RowPlan} (hp : p ∈ (s.prepare cells value).1.plans) :
    ∃ a, s.roster.find? p.row = some a ∧ ∀ week : WeekKey, p.hours[week]? =
      if (⟨p.row, week⟩ : Cell) ∈ cells then some value else a.hours[week]? := by
  obtain ⟨a, -, ha, hpa⟩ := (s.mem_plans_prepare cells value p).mp hp
  have hhours := congrArg RowPlan.hours hpa
  refine ⟨a, ha, fun week ↦ ?_⟩
  rw [hhours, RowPlan.getElem?_hours_ofRow]

/-- The outcome of a planned row is what the answer gives for its plan. -/
theorem outcome?_send_of_mem {p : RowPlan} (hp : p ∈ (s.prepare cells value).1.plans) :
    ((s.prepare cells value).1.send b state).1.outcome? p.row =
      some (if (s.prepare cells value).1.plans.length = 1 then PreparedWrite.outcomeAlone b state p
        else (s.prepare cells value).1.outcomeInBatch b state p) := by
  have hnodup := nodup_rows_settled_send s cells value b state
  have hsettled := PreparedWrite.settled_send (s.prepare cells value).1 b state
  split at hsettled
  · next hone =>
    rw [if_pos hone]
    exact SentWrite.outcome?_of_mem hnodup (hsettled ▸ List.mem_map_of_mem hp)
  · next hmany =>
    rw [if_neg hmany]
    exact SentWrite.outcome?_of_mem hnodup (hsettled ▸ List.mem_map_of_mem hp)

/-- A row with an outcome is planned. -/
theorem exists_plan_of_outcome?_send {row : RowKey} {outcome : RowOutcome}
    (h : ((s.prepare cells value).1.send b state).1.outcome? row = some outcome) :
    ∃ p ∈ (s.prepare cells value).1.plans, p.row = row ∧
      outcome = if (s.prepare cells value).1.plans.length = 1 then
          PreparedWrite.outcomeAlone b state p
        else (s.prepare cells value).1.outcomeInBatch b state p := by
  obtain ⟨p, hsettled, rfl⟩ := SentWrite.mem_of_outcome? h
  have hp : p ∈ (s.prepare cells value).1.plans := by
    rw [← PreparedWrite.plans_settled_send (s.prepare cells value).1 b state]
    exact List.mem_map_of_mem hsettled
  exact ⟨p, hp, rfl, Option.some.inj (h.symm.trans (outcome?_send_of_mem s cells value b state hp))⟩

/-- A row comes back when its plan is the only one to be sent. -/
theorem alone_of_outcome?_send {row : RowKey} {stored : Assignment}
    (h : ((s.prepare cells value).1.send b state).1.outcome? row =
      some (.committed (some stored))) :
    ∃ p, (s.prepare cells value).1.plans = [p] ∧ p.row = row ∧
      (b.updateHours row.assignment p.hours state).1 = .ok stored := by
  obtain ⟨p, hp, rfl, hout⟩ := exists_plan_of_outcome?_send s cells value b state h
  split at hout
  · next hone =>
    obtain ⟨q, hq⟩ := List.length_eq_one_iff.mp hone
    rw [hq, List.mem_singleton] at hp
    subst hp
    refine ⟨p, hq, rfl, ?_⟩
    unfold PreparedWrite.outcomeAlone at hout
    split at hout
    · next stored' hanswer =>
      cases hout
      exact hanswer
    · cases hout
  · unfold PreparedWrite.outcomeInBatch outcomeIn at hout
    split at hout
    · split at hout
      · split at hout <;> cases hout
      · cases hout
    · cases hout

/-- The answer to the only plan is the outcome of its row. -/
theorem outcome?_send_of_single {p : RowPlan} (hone : (s.prepare cells value).1.plans = [p]) :
    let sent := ((s.prepare cells value).1.send b state).1
    (∀ stored, (b.updateHours p.row.assignment p.hours state).1 = .ok stored →
      sent.outcome? p.row = some (.committed (some stored))) ∧
    ∀ e, (b.updateHours p.row.assignment p.hours state).1 = .error e →
      sent.outcome? p.row = some (.failed e.message) := by
  intro sent
  have hout : sent.outcome? p.row = some (PreparedWrite.outcomeAlone b state p) := by
    have hp : p ∈ (s.prepare cells value).1.plans := by
      rw [hone]
      exact List.mem_singleton_self p
    have hlength : (s.prepare cells value).1.plans.length = 1 := congrArg List.length hone
    rw [outcome?_send_of_mem s cells value b state hp, if_pos hlength]
  rw [hout]
  constructor
  · intro stored hanswer
    rw [PreparedWrite.outcomeAlone_of_ok hanswer]
  · intro e hanswer
    rw [PreparedWrite.outcomeAlone_of_error hanswer]

/-- In an answer to several plans the last entry for a row is its outcome. -/
theorem outcome?_send_of_batch (hmany : 2 ≤ (s.prepare cells value).1.plans.length) {p : RowPlan}
    (hp : p ∈ (s.prepare cells value).1.plans) :
    let sent := ((s.prepare cells value).1.send b state).1
    let last? (results : List RowResult) :=
      results.reverse.find? fun r ↦ r.assignment == p.row.assignment
    (∀ results, (b.updateMany (s.prepare cells value).1.updates state).1 = .ok results →
      (∀ r, last? results = some r →
        sent.outcome? p.row = some (if r.isOk then .committed none else .failed r.reason)) ∧
      (last? results = none → sent.outcome? p.row = some (.failed "no result returned"))) ∧
    ∀ e, (b.updateMany (s.prepare cells value).1.updates state).1 = .error e →
      sent.outcome? p.row = some (.failed e.message) := by
  intro sent last?
  have hout : sent.outcome? p.row =
      some ((s.prepare cells value).1.outcomeInBatch b state p) := by
    rw [outcome?_send_of_mem s cells value b state hp, if_neg (by omega)]
  rw [hout]
  constructor
  · intro results hanswer
    rw [PreparedWrite.outcomeInBatch_of_ok hanswer]
    exact ⟨fun r hr ↦ congrArg some (outcomeIn_of_some hr),
      fun hnone ↦ congrArg some (outcomeIn_of_none hnone)⟩
  · intro e hanswer
    rw [PreparedWrite.outcomeInBatch_of_error hanswer]

/-- A row is taken without coming back when it is one of several and the last entry for it in the
answer says so. -/
theorem batched_of_outcome?_send {row : RowKey}
    (h : ((s.prepare cells value).1.send b state).1.outcome? row = some (.committed none)) :
    2 ≤ (s.prepare cells value).1.plans.length ∧
      ∃ results, (b.updateMany (s.prepare cells value).1.updates state).1 = .ok results ∧
        ∃ r, (results.reverse.find? fun r ↦ r.assignment == row.assignment) = some r ∧
          r.isOk := by
  obtain ⟨p, hp, rfl, hout⟩ := exists_plan_of_outcome?_send s cells value b state h
  split at hout
  · unfold PreparedWrite.outcomeAlone at hout
    split at hout <;> cases hout
  · next hone =>
    have hpos : 0 < (s.prepare cells value).1.plans.length := List.length_pos_of_mem hp
    refine ⟨by omega, ?_⟩
    unfold PreparedWrite.outcomeInBatch at hout
    split at hout
    · next results hanswer =>
      refine ⟨results, hanswer, ?_⟩
      unfold outcomeIn at hout
      split at hout
      · next r hr =>
        refine ⟨r, hr, ?_⟩
        split at hout
        · next hok => exact hok
        · cases hout
      · cases hout
    · cases hout

/-- Which rows a write that was sent reports, each of them once. -/
theorem perm_report_send :
    let report := ((s.prepare cells value).1.send b state).1.report
    (report.committed ++ report.failed.map Prod.fst ++ report.skipped).Perm (rowsOf cells) := by
  intro report
  have htaken := SentWrite.perm_report ((s.prepare cells value).1.send b state).1
  rw [rows_settled_send] at htaken
  have hskipped : report.skipped =
      (rowsOf cells).filter fun row ↦ !(s.roster.find? row).isSome := by
    rw [SentWrite.skipped_report, PreparedWrite.prepared_send, s.skipped_prepare]
    simp
  rw [hskipped]
  exact (htaken.append_right _).trans (List.filter_append_perm _ _)

end

/-- A report has a notice for all refused rows and says once that analyses are out of date. -/
theorem WriteReport.events_eq (r : WriteReport) :
    Event.notices r.events =
      (if r.failed.length = 0 then [] else [(.error, failureMessage r.failed.length)]) ∧
    r.events.count .analyticsInvalidated = if r.committed.length = 0 then 0 else 1 := by
  unfold events Event.notices
  constructor
  · cases r.failed <;> cases r.committed <;> simp [Event.notice?]
  · cases r.failed <;> cases r.committed <;> simp

/-- One write from the beginning to the end, whatever the backend answers. -/
theorem write_end {σ : Type} (g : Grid) (b : Backend σ) (cells : List Cell) (value : Float)
    (state : σ) :
    let prepared := g.sheet.prepare cells value
    let sent := (prepared.1.send b state).1
    let settled := ({ g with sheet := prepared.2 } : Grid).settleHours sent
    WriteEnd g b cells value state sent settled.1 settled.2 := by
  intro prepared sent settled
  have hprepared : sent.prepared = prepared.1 := PreparedWrite.prepared_send _ b state
  have hnodup := nodup_rows_settled_send g.sheet cells value b state
  constructor
  case rows =>
    refine ⟨fun row h ↦ settling sent.settled row (Sheet.overwriting prepared.1.plans row h),
      ?_, ?_⟩
    · have hroster : settled.2.roster = (sent.settle prepared.2).roster := rfl
      rw [← Roster.revise_revise, hroster, SentWrite.roster_settle, Sheet.roster_prepare]
      rfl
    · intro row a ha
      refine ⟨?_, ?_, ?_, ?_⟩
      · exact settling_overwriting_of_not_named g.sheet cells value b state ha
      · intro reason h
        exact settling_overwriting_of_failed g.sheet cells value b state h ha
      · intro h week
        exact getElem?_settling_overwriting g.sheet cells value b state h ha week
      · intro stored h week
        exact getElem?_settling_overwriting g.sheet cells value b state h ha week
  case answered =>
    intro c hc hheld
    exact isSome_outcome?_send g.sheet cells value b state hc hheld
  case planned =>
    intro p hp
    rw [hprepared] at hp
    exact exists_find?_of_mem_plans_prepare g.sheet cells value hp
  case alone =>
    intro row stored h
    rw [hprepared]
    exact alone_of_outcome?_send g.sheet cells value b state h
  case answered_alone =>
    intro p hone
    rw [hprepared] at hone
    exact outcome?_send_of_single g.sheet cells value b state hone
  case batched =>
    intro row h
    rw [hprepared]
    exact batched_of_outcome?_send g.sheet cells value b state h
  case answered_together =>
    intro hmany p hp
    rw [hprepared] at hmany hp ⊢
    exact outcome?_send_of_batch g.sheet cells value b state hmany hp
  case counted => exact perm_report_send g.sheet cells value b state
  case adds_up =>
    have hlength := (perm_report_send g.sheet cells value b state).length_eq
    rwa [List.length_append, List.length_append, List.length_map] at hlength
  case committed => exact SentWrite.mem_committed_report_iff hnodup
  case failed => exact SentWrite.mem_failed_report_iff hnodup
  case skipped =>
    intro row
    rw [show settled.1.skipped = sent.prepared.skipped from SentWrite.skipped_report sent,
      hprepared, Sheet.skipped_prepare, List.mem_filter, Option.isNone_iff_eq_none]
    rfl
  case events => exact ⟨sent.report.events, rfl, sent.report.events_eq⟩

end AssignmentGrid
