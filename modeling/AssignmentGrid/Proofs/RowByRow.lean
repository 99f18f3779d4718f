import AssignmentGrid.Backend.Script
import AssignmentGrid.Proofs.Action
import AssignmentGrid.Proofs.WriteEnd
import Mathlib.Algebra.GroupWithZero.Nat

/-!
# A batch and its rows

A write to several rows goes in one batch. Where the backend judges each assignment by itself, in
whatever way it is asked, the rows may as well be written one after the other: rows and totals are
the same in the end, and the reports count the same rows. Specification `SPEC_FULL.md:133–135`.
-/

namespace AssignmentGrid

/-! ### Totals -/

namespace Totals

/-- Totals to which pairs have been added: none is lost, and everyone new has a pair. -/
structure Extends (t t' : Totals) : Prop where
  kept : ∀ p week, (t.get? p week).isSome → (t'.get? p week).isSome
  people : ∀ p, (t'.person? p).isSome ↔ (t.person? p).isSome ∨ ∃ week, (t'.get? p week).isSome

/-- Whoever has a pair is one of the people. -/
theorem isSome_person? {t : Totals} {p : PersonId} {week : WeekKey}
    (h : (t.get? p week).isSome) : (t.person? p).isSome := by
  unfold get? at h
  cases hp : t.person? p with
  | none => simp [hp] at h
  | some hours => rfl

/-- Totals are known from their pairs and their people. -/
theorem ext_get? {t t' : Totals} (hpairs : ∀ p week, t.get? p week = t'.get? p week)
    (hpeople : ∀ p, (t.person? p).isSome ↔ (t'.person? p).isSome) : t = t' := by
  have hperson (p : PersonId) : t.person? p = t'.person? p := by
    have hp := hpeople p
    cases h : t.person? p with
    | none => cases h' : t'.person? p <;> simp_all
    | some hours =>
      cases h' : t'.person? p with
      | none => simp_all
      | some hours' =>
        congr 1
        apply Hours.ext_getElem?
        intro week
        have hweek := hpairs p week
        unfold get? at hweek
        rwa [h, h'] at hweek
  cases t
  cases t'
  congr 1
  exact Std.ExtTreeMap.ext_getElem? fun {p} ↦ hperson p

namespace Extends

variable {t t' t'' : Totals}

theorem refl (t : Totals) : t.Extends t where
  kept _ _ := id
  people p := by
    constructor
    · exact .inl
    · rintro (h | ⟨week, h⟩)
      · exact h
      · exact isSome_person? h

theorem trans (h : t.Extends t') (h' : t'.Extends t'') : t.Extends t'' where
  kept p week hpair := h'.kept p week (h.kept p week hpair)
  people p := by
    rw [h'.people, h.people, or_assoc]
    constructor
    · rintro (hp | ⟨week, hpair⟩ | hp)
      · exact .inl hp
      · exact .inr ⟨week, h'.kept p week hpair⟩
      · exact .inr hp
    · rintro (hp | hp)
      · exact .inl hp
      · exact .inr (.inr hp)

theorem set (t : Totals) (p : PersonId) (week : WeekKey) (value : Float) :
    t.Extends (t.set p week value) where
  kept q other h := by
    rw [get?_set]
    split
    · rfl
    · exact h
  people q := by
    by_cases hq : q = p
    · subst hq
      have hpair : ((t.set q week value).get? q week).isSome := by
        rw [get?_set, if_pos ⟨rfl, rfl⟩]
        rfl
      exact iff_of_true (isSome_person? hpair) (.inr ⟨week, hpair⟩)
    · have hperson : (t.set p week value).person? q = t.person? q := by
        simp [Totals.set, person?, Std.ExtTreeMap.getElem?_insert, Ne.symm hq]
      rw [hperson]
      constructor
      · exact .inl
      · rintro (h | ⟨other, h⟩)
        · exact h
        · rw [get?_set, if_neg fun hsame ↦ hq hsame.1.symm] at h
          exact isSome_person? h

theorem recomputeAll (t : Totals) (p : PersonId) (rows : List Assignment) (weeks : List WeekKey) :
    t.Extends (t.recomputeAll p rows weeks) := by
  unfold Totals.recomputeAll
  induction weeks generalizing t with
  | nil => exact refl t
  | cons week rest ih => exact (set t p week _).trans (ih _)

end Extends

end Totals

/-- Steps that add to the totals add to them one after the other. -/
theorem Sheet.extends_foldl {α : Type} {step : Sheet → α → Sheet}
    (h : ∀ (s : Sheet) (x : α), s.totals.Extends (step s x).totals) (s : Sheet) (xs : List α) :
    s.totals.Extends (xs.foldl step s).totals := by
  induction xs generalizing s with
  | nil => exact .refl _
  | cons x rest ih => exact (h s x).trans (ih _)

/-- A write adds to the totals. -/
theorem Sheet.extends_write {σ : Type} (s : Sheet) (b : Backend σ) (cells : List Cell)
    (value : Float) (state : σ) : s.totals.Extends (s.write b cells value state).1.totals := by
  have hrecompute (s : Sheet) (p : RowPlan) : s.totals.Extends (s.recompute p).totals :=
    .recomputeAll _ _ _ _
  have happly (s : Sheet) (p : RowPlan) : s.totals.Extends (s.applyPlan p).totals := .refl _
  have hprepare : s.totals.Extends (s.prepare cells value).2.totals :=
    (Sheet.extends_foldl happly s _).trans (Sheet.extends_foldl hrecompute _ _)
  have hsettle (s : Sheet) (e : RowPlan × RowOutcome) :
      s.totals.Extends (s.settlePlan e.1 e.2).totals := .recomputeAll _ _ _ _
  exact hprepare.trans (Sheet.extends_foldl hsettle _ _)

/-! ### Backends that judge -/

/-- A backend that judges assignments: in the states with a property, which writes keep, it accepts
or rejects each assignment in whatever way it is asked. -/
structure Backend.Judges {σ : Type} (b : Backend σ) (I : σ → Prop)
    (accepts : AssignmentId → Bool) : Prop where
  /-- A row that is written by itself comes back with the hours that were sent, or is refused. -/
  updateHours : ∀ id hours s, I s → I (b.updateHours id hours s).2 ∧
    (accepts id = true →
      ∃ stored, (b.updateHours id hours s).1 = .ok stored ∧ stored.hours = hours) ∧
    (accepts id = false → ∃ e, (b.updateHours id hours s).1 = .error e)
  /-- The last entry for a row in the answer to a batch tells whether it was accepted. A batch
  fails only if none of its rows is. -/
  updateMany : ∀ updates s, I s → I (b.updateMany updates s).2 ∧
    (∀ results, (b.updateMany updates s).1 = .ok results → ∀ u ∈ updates,
      (accepts u.assignment = true ↔
        ∃ r, (results.reverse.find? fun r ↦ r.assignment == u.assignment) = some r ∧ r.isOk)) ∧
    (∀ e, (b.updateMany updates s).1 = .error e → ∀ u ∈ updates, accepts u.assignment = false)

/-- Whether an outcome is what a backend that judges gives for a row's part of a write. -/
def RowPlan.IsJudged (accepts : AssignmentId → Bool) (p : RowPlan) : RowOutcome → Prop
  | .committed none => accepts p.row.assignment = true
  | .committed (some stored) => accepts p.row.assignment = true ∧ stored.hours = p.hours
  | .failed _ => accepts p.row.assignment = false

/-- A row that is judged is refused unless it is accepted. -/
theorem RowPlan.IsJudged.isNone_reason? {accepts : AssignmentId → Bool} {p : RowPlan}
    {outcome : RowOutcome} (h : p.IsJudged accepts outcome) :
    outcome.reason?.isNone = accepts p.row.assignment := by
  rcases outcome with (_ | stored) | reason
  · exact Eq.symm h
  · exact Eq.symm h.1
  · exact Eq.symm h

/-- A report counts the rows that are accepted, and those that are not. -/
theorem SentWrite.count_report {accepts : AssignmentId → Bool} {w : SentWrite}
    (h : ∀ e ∈ w.settled, e.1.IsJudged accepts e.2) :
    w.report.committed.length =
        (w.settled.map fun e ↦ e.1.row).countP (accepts ·.assignment) ∧
      w.report.failed.length =
        (w.settled.map fun e ↦ e.1.row).countP (!accepts ·.assignment) := by
  rw [report_eq]
  dsimp only
  constructor
  · rw [List.length_map, ← List.countP_eq_length_filter, List.countP_map]
    refine List.countP_congr fun e he ↦ ?_
    rw [(h e he).isNone_reason?]
    rfl
  · rw [List.length_filterMap_eq_countP, List.countP_map]
    refine List.countP_congr fun e he ↦ ?_
    rw [Option.isSome_map, Function.comp_apply, ← (h e he).isNone_reason?, Option.not_isNone]

namespace Backend.Judges

variable {σ : Type} {b : Backend σ} {I : σ → Prop} {accepts : AssignmentId → Bool}

/-- Every row of a write is judged. -/
theorem isJudged (hb : b.Judges I accepts) {w : PreparedWrite} {s : σ} (hs : I s)
    {e : RowPlan × RowOutcome} (he : e ∈ (w.send b s).1.settled) : e.1.IsJudged accepts e.2 := by
  rw [PreparedWrite.settled_send] at he
  -- a single row is judged by its answer, one of several by its entry in the answer to the batch
  split at he
  · obtain ⟨p, -, rfl⟩ := List.mem_map.mp he
    obtain ⟨-, haccepted, hrejected⟩ := hb.updateHours p.row.assignment p.hours s hs
    unfold PreparedWrite.outcomeAlone
    cases haccepts : accepts p.row.assignment with
    | true =>
      obtain ⟨stored, hanswer, hhours⟩ := haccepted haccepts
      rw [hanswer]
      exact ⟨haccepts, hhours⟩
    | false =>
      obtain ⟨e, hanswer⟩ := hrejected haccepts
      rw [hanswer]
      exact haccepts
  · obtain ⟨p, hp, rfl⟩ := List.mem_map.mp he
    obtain ⟨-, hanswered, hrefused⟩ := hb.updateMany w.updates s hs
    have hu : (⟨p.row.assignment, p.hours⟩ : HoursUpdate) ∈ w.updates :=
      List.mem_map.mpr ⟨p, hp, rfl⟩
    unfold PreparedWrite.outcomeInBatch
    split
    · next results hanswer =>
      have haccepts := hanswered results hanswer _ hu
      dsimp only at haccepts
      unfold outcomeIn
      split
      · next r hr =>
        split
        · next hok => exact haccepts.mpr ⟨r, hr, hok⟩
        · next hok =>
          refine Bool.eq_false_iff.mpr fun haccepted ↦ ?_
          obtain ⟨r', hr', hok'⟩ := haccepts.mp haccepted
          cases hr.symm.trans hr'
          exact hok hok'
      · next hnone =>
        refine Bool.eq_false_iff.mpr fun haccepted ↦ ?_
        obtain ⟨r, hr, -⟩ := haccepts.mp haccepted
        cases hnone.symm.trans hr
    · next e hanswer => exact hrefused e hanswer _ hu

/-- Writes keep to the states. -/
theorem send (hb : b.Judges I accepts) (w : PreparedWrite) {s : σ} (hs : I s) :
    I (w.send b s).2 := by
  by_cases hbatch : 2 ≤ w.plans.length
  · rw [PreparedWrite.send_of_batch w b s hbatch]
    exact (hb.updateMany w.updates s hs).1
  · cases hplans : w.plans with
    | nil =>
      rw [PreparedWrite.send_of_nil w b s hplans]
      exact hs
    | cons p rest =>
      have hrest : rest = [] := by
        rw [hplans, List.length_cons] at hbatch
        exact List.length_eq_zero_iff.mp (by omega)
      subst hrest
      rw [PreparedWrite.send_of_single w b s hplans]
      exact (hb.updateHours p.row.assignment p.hours s hs).1

end Backend.Judges

/-! ### Writes -/

/-- The hours of a row after rows have been written: the rows that are accepted have the value in
their weeks. -/
def accepted (accepts : AssignmentId → Bool) (value : Float) (weeks : RowKey → List WeekKey)
    (rows : List RowKey) (row : RowKey) (h : Hours) : Hours :=
  if row ∈ rows ∧ accepts row.assignment = true then h.fill (weeks row) value else h

/-- Whether the cells of rows count for the total of a pair: one of them is in a row that is
held. -/
def Sheet.Reaches (s : Sheet) (weeks : RowKey → List WeekKey) (rows : List RowKey) (q : PersonId)
    (week : WeekKey) : Prop :=
  ∃ id, (⟨q, id⟩ : RowKey) ∈ rows ∧ week ∈ weeks ⟨q, id⟩ ∧ (s.roster.find? ⟨q, id⟩).isSome

/-- Rows are written to a sheet, each in its weeks: `reports` are the reports of the writes, however
the rows were shared out among them. -/
structure RowsWritten (accepts : AssignmentId → Bool) (value : Float)
    (weeks : RowKey → List WeekKey) (rows : List RowKey) (s s' : Sheet)
    (reports : List WriteReport) : Prop where
  roster : s'.roster = s.roster.revise (accepted accepts value weeks rows)
  totals : s.totals.Extends s'.totals
  /-- A pair for which written cells count holds the sum of the rows. -/
  reached : ∀ q week, s.Reaches weeks rows q week →
    s'.totals.get? q week = some (weekSum (s'.roster.rowsFor q) week)
  /-- Any other pair holds what it held. -/
  left : ∀ q week, ¬ s.Reaches weeks rows q week → s'.totals.get? q week = s.totals.get? q week
  committed : (reports.map (·.committed.length)).sum =
    rows.countP fun row ↦ (s.roster.find? row).isSome && accepts row.assignment
  failed : (reports.map (·.failed.length)).sum =
    rows.countP fun row ↦ (s.roster.find? row).isSome && !accepts row.assignment
  skipped : (reports.map (·.skipped.length)).sum =
    rows.countP fun row ↦ !(s.roster.find? row).isSome

namespace RowsWritten

variable {accepts : AssignmentId → Bool} {value : Float} {weeks : RowKey → List WeekKey}
  {rows rest : List RowKey} {s s' s'' : Sheet} {reports more : List WriteReport}

/-- However the rows are shared out, the sheet is the same in the end. -/
theorem sheet_eq (h : RowsWritten accepts value weeks rows s s' reports)
    (h' : RowsWritten accepts value weeks rows s s'' more) : s' = s'' := by
  have hroster : s'.roster = s''.roster := h.roster.trans h'.roster.symm
  have hpairs (q : PersonId) (week : WeekKey) :
      s'.totals.get? q week = s''.totals.get? q week := by
    by_cases hreached : s.Reaches weeks rows q week
    · rw [h.reached q week hreached, h'.reached q week hreached, hroster]
    · rw [h.left q week hreached, h'.left q week hreached]
  have htotals : s'.totals = s''.totals := by
    apply Totals.ext_get? hpairs
    intro p
    rw [h.totals.people, h'.totals.people]
    simp only [hpairs]
  cases s'
  cases s''
  congr 1

/-- Writing no row changes nothing. -/
theorem nil (s : Sheet) : RowsWritten accepts value weeks [] s s [] where
  roster := by
    have hkeep : accepted accepts value weeks [] = fun _ h ↦ h := by
      ext row h
      simp [accepted]
    rw [hkeep, Roster.revise_id]
  totals := .refl _
  reached := by
    rintro q week ⟨id, hnone, -⟩
    cases hnone
  left _ _ _ := rfl
  committed := rfl
  failed := rfl
  skipped := rfl

/-- Of the weeks those of the written rows count. -/
theorem of_weeks {weeks' : RowKey → List WeekKey}
    (h : RowsWritten accepts value weeks rows s s' reports)
    (hweeks : ∀ row ∈ rows, weeks row = weeks' row) :
    RowsWritten accepts value weeks' rows s s' reports := by
  have hreaches (q : PersonId) (week : WeekKey) :
      s.Reaches weeks rows q week ↔ s.Reaches weeks' rows q week := by
    refine exists_congr fun id ↦ and_congr_right fun hrow ↦ ?_
    rw [hweeks _ hrow]
  constructor
  case roster =>
    rw [h.roster]
    congr 1
    ext row hours : 2
    unfold accepted
    split
    · next hrow => rw [hweeks row hrow.1]
    · rfl
  case totals => exact h.totals
  case reached =>
    intro q week hreached
    exact h.reached q week ((hreaches q week).mpr hreached)
  case left =>
    intro q week hleft
    exact h.left q week fun hreached ↦ hleft ((hreaches q week).mp hreached)
  case committed => exact h.committed
  case failed => exact h.failed
  case skipped => exact h.skipped

/-- Other rows may be written before. -/
theorem append (h : RowsWritten accepts value weeks rows s s' reports)
    (h' : RowsWritten accepts value weeks rest s' s'' more) (hrows : rows.Disjoint rest) :
    RowsWritten accepts value weeks (rows ++ rest) s s'' (reports ++ more) := by
  have hheld (row : RowKey) : (s'.roster.find? row).isSome = (s.roster.find? row).isSome := by
    rw [h.roster, Roster.find?_revise, Option.isSome_map]
  have hreaches (q : PersonId) (week : WeekKey) : s.Reaches weeks (rows ++ rest) q week ↔
      s.Reaches weeks rows q week ∨ s'.Reaches weeks rest q week := by
    unfold Sheet.Reaches
    simp only [hheld, List.mem_append, or_and_right, exists_or]
  constructor
  case roster =>
    rw [h'.roster, h.roster, Roster.revise_revise]
    congr 1
    ext row hours : 2
    unfold accepted
    by_cases hrow : row ∈ rows
    · have hother : row ∉ rest := fun hrest ↦ hrows hrow hrest
      simp [hrow, hother]
    · simp [hrow]
  case totals => exact h.totals.trans h'.totals
  case reached =>
    intro q week hreached
    by_cases hlater : s'.Reaches weeks rest q week
    · exact h'.reached q week hlater
    · -- the rows that come later do not count for the pair, so that its sum stays
      have hsum : weekSum (s''.roster.rowsFor q) week = weekSum (s'.roster.rowsFor q) week := by
        rw [h'.roster]
        apply Roster.weekSum_revise_of_amount
        intro id a ha
        unfold accepted
        split
        · next hrow =>
          rw [Hours.getElem?_fill, if_neg]
          exact fun hweek ↦ hlater ⟨id, hrow.1, hweek, by rw [ha]; rfl⟩
        · rfl
      have hearlier : s.Reaches weeks rows q week :=
        ((hreaches q week).mp hreached).resolve_right hlater
      rw [h'.left q week hlater, h.reached q week hearlier, hsum]
  case left =>
    intro q week hleft
    rw [hreaches, not_or] at hleft
    rw [h'.left q week hleft.2, h.left q week hleft.1]
  case committed =>
    rw [List.map_append, List.sum_append, h.committed, h'.committed, List.countP_append]
    simp only [hheld]
  case failed =>
    rw [List.map_append, List.sum_append, h.failed, h'.failed, List.countP_append]
    simp only [hheld]
  case skipped =>
    rw [List.map_append, List.sum_append, h.skipped, h'.skipped, List.countP_append]
    simp only [hheld]

end RowsWritten

/-- After a write the touched pairs hold the sums of the rows, and every other pair holds what it
held. -/
theorem Sheet.get?_write {σ : Type} (s : Sheet) (b : Backend σ) (cells : List Cell) (value : Float)
    (state : σ) (q : PersonId) (week : WeekKey) :
    (s.write b cells value state).1.totals.get? q week =
      if ∃ p ∈ (s.prepare cells value).1.plans, p.Touches q week then
        some (weekSum ((s.write b cells value state).1.roster.rowsFor q) week)
      else s.totals.get? q week := by
  have hsettled := ((s.prepare cells value).1.send b state).1.get?_settle
    (s.prepare cells value).2 q week
  simp only [PreparedWrite.touched_send_iff] at hsettled
  refine hsettled.trans ?_
  split
  · rfl
  · next hnot => exact (s.get?_prepare cells value q week).trans (if_neg hnot)

/-- The report of a write. -/
def Sheet.reportOf {σ : Type} (b : Backend σ) (cells : List Cell) (value : Float) (s : Sheet)
    (state : σ) : WriteReport :=
  ((s.prepare cells value).1.send b state).1.report

namespace Backend.Judges

variable {σ : Type} {b : Backend σ} {I : σ → Prop} {accepts : AssignmentId → Bool} {state : σ}

/-- A write to held rows has the value where the row is accepted. -/
theorem roster_write (hb : b.Judges I accepts) (hs : I state) (s : Sheet) (cells : List Cell)
    (value : Float) :
    (s.write b cells value state).1.roster =
      s.roster.revise (accepted accepts value (weeksOf cells) (rowsOf cells)) := by
  rw [Sheet.roster_write]
  apply Roster.revise_congr
  intro row a ha
  -- a named row is settled by its own part of the write, any other row by none
  by_cases hnamed : row ∈ rowsOf cells
  · have hrow : row ∈ ((s.prepare cells value).1.send b state).1.settled.map fun e ↦ e.1.row := by
      rw [rows_settled_send, List.mem_filter]
      exact ⟨hnamed, by rw [ha]; rfl⟩
    obtain ⟨⟨p, outcome⟩, he, rfl : p.row = row⟩ := List.mem_map.mp hrow
    have hjudged : p.IsJudged accepts outcome := hb.isJudged hs he
    have hout := SentWrite.outcome?_of_mem (nodup_rows_settled_send s cells value b state) he
    obtain ⟨a', ha', hp : p = RowPlan.ofRow cells value p.row a'⟩ :=
      SentWrite.exists_ofRow_of_mem_settled (PreparedWrite.prepared_send _ b state) he
    obtain rfl : a = a' := Option.some.inj (ha.symm.trans ha')
    have hfilled (haccepts : accepts p.row.assignment = true) :
        accepted accepts value (weeksOf cells) (rowsOf cells) p.row a.hours =
          a.hours.fill (weeksOf cells p.row) value := if_pos ⟨hnamed, haccepts⟩
    apply Hours.ext_getElem?
    intro week
    refine (getElem?_settling_overwriting s cells value b state hout ha week).trans ?_
    rcases outcome with (_ | stored) | reason
    · rw [hfilled hjudged, Hours.getElem?_fill]
      simp only [mem_weeksOf, RowOutcome.entry]
    · rw [hfilled hjudged.1, Hours.getElem?_fill]
      simp only [mem_weeksOf, RowOutcome.entry]
      split
      · next hcell => rw [hjudged.2, hp, RowPlan.getElem?_hours_ofRow, if_pos hcell]
      · rfl
    · have hrejected : accepts p.row.assignment = false := hjudged
      have hkept : accepted accepts value (weeksOf cells) (rowsOf cells) p.row a.hours = a.hours :=
        if_neg (by simp [hrejected])
      rw [hkept]
      exact ite_self _
  · have hkept : accepted accepts value (weeksOf cells) (rowsOf cells) row a.hours = a.hours :=
      if_neg fun h ↦ hnamed h.1
    rw [settling_overwriting_of_not_named s cells value b state ha, hkept]
    rintro ⟨row, week⟩ hc rfl
    exact hnamed (mem_rowsOf.mpr ⟨week, hc⟩)

/-- A write writes the named rows. -/
theorem rowsWritten (hb : b.Judges I accepts) (hs : I state) (s : Sheet) (cells : List Cell)
    (value : Float) :
    RowsWritten accepts value (weeksOf cells) (rowsOf cells) s (s.write b cells value state).1
      [s.reportOf b cells value state] := by
  obtain ⟨hcommitted, hfailed⟩ := SentWrite.count_report
    (w := ((s.prepare cells value).1.send b state).1) fun e he ↦ hb.isJudged hs he
  rw [rows_settled_send, List.countP_filter] at hcommitted hfailed
  have htouched (q : PersonId) (week : WeekKey) :
      (∃ p ∈ (s.prepare cells value).1.plans, p.Touches q week) ↔
        s.Reaches (weeksOf cells) (rowsOf cells) q week := by
    rw [s.touched_prepare_iff]
    refine exists_congr fun id ↦ ?_
    rw [mem_weeksOf]
    constructor
    · rintro ⟨hcell, hheld⟩
      exact ⟨mem_rowsOf.mpr ⟨week, hcell⟩, hcell, hheld⟩
    · rintro ⟨-, hcell, hheld⟩
      exact ⟨hcell, hheld⟩
  constructor
  case roster => exact hb.roster_write hs s cells value
  case totals => exact s.extends_write b cells value state
  case reached =>
    intro q week hreached
    exact (s.get?_write b cells value state q week).trans
      (if_pos ((htouched q week).mpr hreached))
  case left =>
    intro q week hleft
    exact (s.get?_write b cells value state q week).trans
      (if_neg fun h ↦ hleft ((htouched q week).mp h))
  case committed =>
    rw [List.map_singleton, List.sum_singleton]
    refine hcommitted.trans (List.countP_congr fun row _ ↦ ?_)
    rw [Bool.and_comm]
  case failed =>
    rw [List.map_singleton, List.sum_singleton]
    refine hfailed.trans (List.countP_congr fun row _ ↦ ?_)
    rw [Bool.and_comm]
  case skipped =>
    rw [List.map_singleton, List.sum_singleton, Sheet.reportOf, SentWrite.skipped_report,
      PreparedWrite.prepared_send, Sheet.skipped_prepare, ← List.countP_eq_length_filter]
    simp only [Option.not_isSome]

end Backend.Judges

/-! ### Rows one after the other -/

/-- Write a value to the cells of rows, one row after the other; the reports come in this order. -/
def Sheet.writeRows {σ : Type} (b : Backend σ) (cells : List Cell) (value : Float) :
    List RowKey → Sheet → σ → List WriteReport × Sheet × σ
  | [], s, state => ([], s, state)
  | row :: rest, s, state =>
    let own := cells.filter fun c ↦ c.row = row
    let written := s.write b own value state
    let later := writeRows b cells value rest written.1 written.2
    (s.reportOf b own value state :: later.1, later.2)

namespace Backend.Judges

variable {σ : Type} {b : Backend σ} {I : σ → Prop} {accepts : AssignmentId → Bool}

/-- A write to the cells of one row writes that row. -/
theorem rowsWritten_of_row (hb : b.Judges I accepts) {state : σ} (hs : I state) (s : Sheet)
    {cells : List Cell} {row : RowKey} (hrow : row ∈ rowsOf cells) (value : Float) :
    let own := cells.filter fun c ↦ c.row = row
    RowsWritten accepts value (weeksOf cells) [row] s (s.write b own value state).1
      [s.reportOf b own value state] := by
  intro own
  have hrows : rowsOf own = [row] := by
    apply rowsOf_eq_singleton
    · obtain ⟨week, hc⟩ := mem_rowsOf.mp hrow
      exact List.ne_nil_of_mem (List.mem_filter.mpr ⟨hc, by simp⟩)
    · intro c hc
      simpa using (List.mem_filter.mp hc).2
  have hweeks : weeksOf own row = weeksOf cells row := by
    unfold weeksOf
    rw [List.filter_filter]
    simp
  have hwritten := hb.rowsWritten hs s own value
  rw [hrows] at hwritten
  apply hwritten.of_weeks
  intro other hother
  rw [List.mem_singleton.mp hother, hweeks]

/-- Rows that are written one after the other are written. -/
theorem rowsWritten_writeRows (hb : b.Judges I accepts) {state : σ} (hs : I state) (s : Sheet)
    {cells : List Cell} {rows : List RowKey} (hrows : ∀ row ∈ rows, row ∈ rowsOf cells)
    (hnodup : rows.Nodup) (value : Float) :
    let written := s.writeRows b cells value rows state
    RowsWritten accepts value (weeksOf cells) rows s written.2.1 written.1 := by
  intro written
  -- after each write the backend judges as before, so that the rest of the rows may be written
  induction rows generalizing s state with
  | nil => exact .nil s
  | cons row rest ih =>
    obtain ⟨hrow, hothers⟩ := List.forall_mem_cons.mp hrows
    obtain ⟨hnew, hrest⟩ := List.nodup_cons.mp hnodup
    let own := cells.filter fun c ↦ c.row = row
    have hstate : I (s.write b own value state).2 := hb.send _ hs
    have hfirst := hb.rowsWritten_of_row hs s hrow value
    have hlater := ih hstate (s.write b own value state).1 hothers hrest
    exact hfirst.append hlater (List.singleton_disjoint.mpr hnew)

end Backend.Judges

/-- A script without answers for writes judges assignments by its locks. -/
theorem Script.judges (locked : List AssignmentId) :
    Script.backend.Judges (fun s ↦ s.updates = [] ∧ s.bulks = [] ∧ s.locked = locked)
      (fun id ↦ !locked.contains id) where
  updateHours id hours s := by
    rintro ⟨hupdates, hbulks, rfl⟩
    have hcall : Script.backend.updateHours id hours s =
        (if s.isLocked id then .error (.validation "assignment is locked")
          else .ok { id, person := 0, project := 0, hours }, s) := by
      unfold Script.backend
      dsimp only
      rw [hupdates]
      rfl
    rw [hcall]
    refine ⟨⟨hupdates, hbulks, rfl⟩, ?_, ?_⟩
    · intro haccepts
      rw [if_neg (by simpa [isLocked] using haccepts)]
      exact ⟨_, rfl, rfl⟩
    · intro hrejects
      rw [if_pos (by simpa [isLocked] using hrejects)]
      exact ⟨_, rfl⟩
  updateMany updates s := by
    rintro ⟨hupdates, hbulks, rfl⟩
    have hcall : Script.backend.updateMany updates s = (.ok (updates.map s.rowResult), s) := by
      unfold Script.backend
      dsimp only
      rw [hbulks]
      rfl
    have hassignment (u : HoursUpdate) : (s.rowResult u).assignment = u.assignment := by
      unfold rowResult
      split
      · rfl
      · rfl
    rw [hcall]
    refine ⟨⟨hupdates, hbulks, rfl⟩, ?_, nofun⟩
    rintro results ⟨⟩ u hu
    have hok (v : HoursUpdate) : (s.rowResult v).isOk = !s.locked.contains v.assignment := by
      unfold rowResult isLocked
      split
      · next hlocked => rw [RowResult.isOk_failed, hlocked]; rfl
      · next hfree => rw [RowResult.isOk_ok, Bool.eq_false_iff.mpr hfree]; rfl
    have hfound (r : RowResult) (hr : r ∈ updates.map s.rowResult)
        (hid : r.assignment = u.assignment) : r.isOk = !s.locked.contains u.assignment := by
      obtain ⟨v, -, rfl⟩ := List.mem_map.mp hr
      rw [hok, ← hid, hassignment]
    constructor
    · intro haccepts
      have hsome : ((updates.map s.rowResult).reverse.find?
          fun r ↦ r.assignment == u.assignment).isSome := by
        rw [List.find?_isSome]
        exact ⟨s.rowResult u, List.mem_reverse.mpr (List.mem_map_of_mem hu), by simp [hassignment]⟩
      obtain ⟨r, hr⟩ := Option.isSome_iff_exists.mp hsome
      refine ⟨r, hr, ?_⟩
      rw [hfound r (List.mem_reverse.mp (List.mem_of_find?_eq_some hr))
        (by simpa using List.find?_some hr)]
      exact haccepts
    · rintro ⟨r, hr, hisOk⟩
      rw [← hfound r (List.mem_reverse.mp (List.mem_of_find?_eq_some hr))
        (by simpa using List.find?_some hr)]
      exact hisOk

/-- A write to many cells and writes to the cells of one row after the other, in the order in which
the rows are named, leave the same rows and the same totals, and count the same rows, where the
backend judges each assignment by itself. -/
theorem write_row_by_row {σ : Type} {b : Backend σ} {I : σ → Prop}
    {accepts : AssignmentId → Bool} (hb : b.Judges I accepts) {state : σ} (hs : I state)
    (s : Sheet) (cells : List Cell) (value : Float) :
    let batch := s.reportOf b cells value state
    let single := s.writeRows b cells value (rowsOf cells) state
    single.2.1 = (s.write b cells value state).1 ∧
      (single.1.map (·.committed.length)).sum = batch.committed.length ∧
      (single.1.map (·.failed.length)).sum = batch.failed.length ∧
      (single.1.map (·.skipped.length)).sum = batch.skipped.length := by
  intro batch single
  have hbatch := hb.rowsWritten hs s cells value
  have hsingle := hb.rowsWritten_writeRows hs s (fun _ ↦ id) (nodup_rowsOf cells) value
  refine ⟨hsingle.sheet_eq hbatch, ?_, ?_, ?_⟩
  · exact hsingle.committed.trans (hbatch.committed.symm.trans List.sum_singleton)
  · exact hsingle.failed.trans (hbatch.failed.symm.trans List.sum_singleton)
  · exact hsingle.skipped.trans (hbatch.skipped.symm.trans List.sum_singleton)

/-- Three rows of one person are written in two weeks: the second one is locked, and the third one
is not held. -/
theorem write_row_by_row_with_locked_row :
    let first : RowKey := ⟨7, 41⟩
    let second : RowKey := ⟨7, 42⟩
    let third : RowKey := ⟨7, 43⟩
    let monday : WeekKey := ⟨"2024-01-01"⟩
    let next : WeekKey := ⟨"2024-01-08"⟩
    let roster := Roster.ofSnapshot [⟨7, "Ada Park"⟩]
      [{ id := 41, person := 7, project := 1 }, { id := 42, person := 7, project := 2 }]
    let s : Sheet := ⟨roster, .empty⟩
    let cells : List Cell := [⟨first, monday⟩, ⟨second, monday⟩, ⟨third, next⟩, ⟨first, next⟩]
    let script : Script := { locked := [42] }
    let single := s.writeRows Script.backend cells 8 (rowsOf cells) script
    single.2.1 = (s.write Script.backend cells 8 script).1 ∧
      s.reportOf Script.backend cells 8 script =
        ⟨[first], [(second, "assignment is locked")], [third]⟩ ∧
      single.1 =
        [⟨[first], [], []⟩, ⟨[], [(second, "assignment is locked")], []⟩, ⟨[], [], [third]⟩] := by
  intro first second third monday next roster s cells script single
  have hscript : script.updates = [] ∧ script.bulks = [] ∧ script.locked = [42] :=
    ⟨rfl, rfl, rfl⟩
  obtain ⟨hsheet, -⟩ := write_row_by_row (Script.judges [42]) hscript s cells 8
  exact ⟨hsheet, by decide +kernel, by decide +kernel⟩

end AssignmentGrid
