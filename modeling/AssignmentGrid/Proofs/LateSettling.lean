import AssignmentGrid.Grid.Load
import AssignmentGrid.Proofs.Interleaving
import AssignmentGrid.Proofs.RowServer

/-!
# Settling late

Between the preparation of a write and its settlement the grid may be loaded anew, with other rows
and other totals. A plan holds what the cells held when it was made, so that a refused row puts
those entries back whatever has been loaded since. What settling leaves is said here for any later
grid. Specification `SPEC_FULL.md:141–145,191–193`.
-/

namespace AssignmentGrid

/-- What settling a write that was prepared in the grid `g` makes of a later grid. -/
structure SettledLate (g later : Grid) (cells : List Cell) (sent : SentWrite) (final : Grid) :
    Prop where
  /-- Only hours of rows that are found by then are revised, in this way: -/
  rows : ∃ f : RowKey → Hours → Hours, final.roster = later.roster.revise f ∧
    ∀ row a, later.roster.find? row = some a →
      -- weeks that are not named keep their entries,
      (∀ week, (⟨row, week⟩ : Cell) ∉ cells → (f row a.hours)[week]? = a.hours[week]?) ∧
      -- and so do all weeks of a row without an outcome;
      (sent.outcome? row = none → f row a.hours = a.hours) ∧
      -- the named weeks of a row that came back have what came back,
      (∀ stored, sent.outcome? row = some (.committed (some stored)) →
        ∀ week, (⟨row, week⟩ : Cell) ∈ cells → (f row a.hours)[week]? = stored.hours[week]?) ∧
      -- those of a row that was refused what they held when the write was prepared.
      (∀ reason, sent.outcome? row = some (.failed reason) →
        ∀ week, (⟨row, week⟩ : Cell) ∈ cells →
          some (f row a.hours)[week]? = g.roster.entry? ⟨row, week⟩)
  /-- The total of a pair stays in which no named cell of a row with an outcome lies. -/
  totals : ∀ p week, (∀ id, (⟨⟨p, id⟩, week⟩ : Cell) ∈ cells → sent.outcome? ⟨p, id⟩ = none) →
    final.totals.get? p week = later.totals.get? p week
  /-- The total of a pair is the sum of the rows if such a cell of a row lies in it that is found
  by then. -/
  sums : ∀ c ∈ cells, (sent.outcome? c.row).isSome → (later.roster.find? c.row).isSome →
    final.totals.get? c.row.person c.week =
      some (weekSum (final.roster.rowsFor c.row.person) c.week)

/-! ### Rows and totals -/

section

variable {s : Sheet} {cells : List Cell} {value : Float} {w : SentWrite}

/-- A row without an outcome is left alone. -/
theorem settling_of_outcome?_eq_none {row : RowKey} (h : w.outcome? row = none) (hours : Hours) :
    settling w.settled row hours = hours := by
  have hnone : ∀ e ∈ w.settled, e.1.row ≠ row := by
    simpa [SentWrite.outcome?] using h
  apply Hours.ext_getElem?
  intro week
  exact Sheet.getElem?_settling_of_not_touched (fun e he hrow ↦ absurd hrow (hnone e he)) hours

/-- The pairs that settling touches are those of named cells of rows with an outcome. -/
theorem touched_settled_iff (hw : w.prepared = (s.prepare cells value).1) (p : PersonId)
    (week : WeekKey) :
    (∃ e ∈ w.settled, e.1.Touches p week) ↔
      ∃ id, (⟨⟨p, id⟩, week⟩ : Cell) ∈ cells ∧ (w.outcome? ⟨p, id⟩).isSome := by
  have hweeks {e : RowPlan × RowOutcome} (he : e ∈ w.settled) :
      week ∈ e.1.weeks ↔ (⟨e.1.row, week⟩ : Cell) ∈ cells := by
    obtain ⟨a, -, hpa⟩ := SentWrite.exists_ofRow_of_mem_settled hw he
    rw [hpa, RowPlan.weeks_ofRow, mem_weeksOf]
    rfl
  constructor
  · rintro ⟨e, he, rfl, hweek⟩
    have hout := SentWrite.outcome?_of_mem (SentWrite.nodup_rows_settled hw) he
    exact ⟨e.1.row.assignment, (hweeks he).mp hweek, by simp [hout]⟩
  · rintro ⟨id, hcell, hsome⟩
    obtain ⟨outcome, hout⟩ := Option.isSome_iff_exists.mp hsome
    obtain ⟨q, hq, hrow⟩ := SentWrite.mem_of_outcome? hout
    refine ⟨(q, outcome), hq, congrArg RowKey.person hrow, (hweeks hq).mpr ?_⟩
    rw [hrow]
    exact hcell

end

/-! ### Late settlement -/

/-- Settling a write late, in whatever grid there is by then and with whatever outcomes. -/
theorem settled_late (g later : Grid) (cells : List Cell) (value : Float)
    (outcomes : List RowOutcome) :
    let sent : SentWrite := ⟨(g.prepareHours cells value).1, outcomes⟩
    SettledLate g later cells sent (later.settleHours sent).2 := by
  intro sent
  have hsent : sent.prepared = (g.sheet.prepare cells (Hours.clamp g.hoursCap value)).1 := rfl
  have hroster : (later.settleHours sent).2.roster = later.roster.revise (settling sent.settled) :=
    SentWrite.roster_settle sent later.sheet
  have htotals := SentWrite.get?_settle sent later.sheet
  constructor
  case rows =>
    refine ⟨settling sent.settled, hroster, ?_⟩
    intro row a _
    refine ⟨?_, ?_, ?_, ?_⟩
    · intro week hcell
      cases hout : sent.outcome? row with
      | none => rw [settling_of_outcome?_eq_none hout]
      | some outcome =>
        obtain ⟨before, hbefore⟩ := SentWrite.exists_find?_of_outcome? hsent hout
        rw [SentWrite.getElem?_settling_of_outcome? hsent hout hbefore, if_neg hcell]
    · intro hout
      exact settling_of_outcome?_eq_none hout a.hours
    · intro stored hout week hcell
      obtain ⟨before, hbefore⟩ := SentWrite.exists_find?_of_outcome? hsent hout
      rw [SentWrite.getElem?_settling_of_outcome? hsent hout hbefore, if_pos hcell]
      rfl
    · intro reason hout week hcell
      obtain ⟨before, hbefore⟩ := SentWrite.exists_find?_of_outcome? hsent hout
      have hentry : g.roster.entry? ⟨row, week⟩ = some before.hours[week]? := by
        simp [Roster.entry?, Grid.roster, hbefore]
      rw [SentWrite.getElem?_settling_of_outcome? hsent hout hbefore, if_pos hcell, hentry]
      rfl
  case totals =>
    intro p week hnone
    have huntouched : ¬ ∃ e ∈ sent.settled, e.1.Touches p week := by
      rw [touched_settled_iff hsent]
      rintro ⟨id, hcell, hsome⟩
      simp [hnone id hcell] at hsome
    exact (htotals p week).trans (if_neg huntouched)
  case sums =>
    intro c hc hsome _
    have htouched : ∃ e ∈ sent.settled, e.1.Touches c.row.person c.week :=
      (touched_settled_iff hsent c.row.person c.week).mpr ⟨c.row.assignment, hc, hsome⟩
    exact (htotals c.row.person c.week).trans (if_pos htouched)

/-- Somebody has filled an empty cell in the meantime, and a load has shown it. Settling a refused
write to that cell empties it again, although no row of the write was taken. -/
theorem refusal_overwrites_loaded_hours :
    let c : Cell := ⟨⟨7, 42⟩, ⟨"2024-01-01"⟩⟩
    let server (hours : Hours) : RowServer :=
      { rows := [{ id := 42, person := 7, project := 3, hours }]
        nodup := List.nodup_singleton _
        shown := [7]
        locked := [42] }
    let start := (({} : Grid).load RowServer.backend {} (server ∅)).grid
    let prepared := start.prepareHours [c] 4
    let sent := (prepared.1.send RowServer.backend (server ∅)).1
    let loaded := prepared.2.load RowServer.backend {} (server ((∅ : Hours).insert c.week 20))
    let settled := loaded.grid.settleHours sent
    loaded.result = .ok () ∧ settled.1.committed = [] ∧
      settled.2.roster.entry? c ≠ loaded.grid.roster.entry? c := by
  intro c server start prepared sent loaded settled
  have hload : loaded.result = .ok () := rfl
  have hentries : (settled.2.roster.entry? c).map Option.isSome = some false ∧
      (loaded.grid.roster.entry? c).map Option.isSome = some true := by
    decide +kernel
  refine ⟨hload, by decide +kernel, ?_⟩
  intro hsame
  rw [hsame, hentries.2] at hentries
  simp at hentries

/-! ### Rows that were taken -/

/-- A named cell of a row that was taken, after a late settlement: a row that was sent by itself
brings its entry along, a row of a batch has what it had by then. -/
theorem committed_cells_settled_late {σ : Type} (g later : Grid) (b : Backend σ) (cells : List Cell)
    (value : Float) (state : σ) :
    let prepared := (g.prepareHours cells value).1
    let sent := (prepared.send b state).1
    let final := (later.settleHours sent).2
    ∀ c ∈ cells, ∀ stored?, sent.outcome? c.row = some (.committed stored?) →
      ∀ a, later.roster.find? c.row = some a →
        (stored?.isSome ↔ prepared.plans.length = 1) ∧
        final.roster.entry? c = some (match stored? with
          | some stored => stored.hours[c.week]?
          | none => a.hours[c.week]?) := by
  intro prepared sent final c hc stored? hout a ha
  have hsent : sent.prepared = (g.sheet.prepare cells (Hours.clamp g.hoursCap value)).1 :=
    PreparedWrite.prepared_send prepared b state
  have hroster : final.roster = later.roster.revise (settling sent.settled) :=
    SentWrite.roster_settle sent later.sheet
  have hentry : final.roster.entry? c = some (settling sent.settled c.row a.hours)[c.week]? := by
    simp [Roster.entry?, hroster, Roster.find?_revise, ha]
  obtain ⟨before, hbefore⟩ := SentWrite.exists_find?_of_outcome? hsent hout
  rw [hentry, SentWrite.getElem?_settling_of_outcome? hsent hout hbefore, if_pos hc]
  cases stored? with
  | none =>
    have hmany : 2 ≤ prepared.plans.length :=
      (batched_of_outcome?_send g.sheet cells _ b state hout).1
    refine ⟨?_, rfl⟩
    simp only [Option.isSome_none, Bool.false_eq_true, false_iff]
    omega
  | some stored =>
    obtain ⟨p, hplans, -⟩ := alone_of_outcome?_send g.sheet cells _ b state hout
    have hone : prepared.plans.length = 1 := congrArg List.length hplans
    exact ⟨by simp [hone], rfl⟩

/-- A row that was sent by itself keeps its new entry through a load that still shows the row as it
was before. -/
theorem committed_cells_settled_late_alone :
    let c : Cell := ⟨⟨7, 42⟩, ⟨"2024-01-01"⟩⟩
    let server : RowServer :=
      { rows := [{ id := 42, person := 7, project := 3 }]
        nodup := List.nodup_singleton _
        shown := [7] }
    let start := (({} : Grid).load RowServer.backend {} server).grid
    let prepared := start.prepareHours [c] 8
    let sent := (prepared.1.send RowServer.backend server).1
    let loaded := prepared.2.load RowServer.backend {} server
    let settled := loaded.grid.settleHours sent
    loaded.result = .ok () ∧ loaded.grid.roster.entry? c = some none ∧
      ∃ stored, sent.outcome? c.row = some (.committed (some stored)) ∧
        (stored.hours[c.week]?).isSome ∧
        settled.2.roster.entry? c = some stored.hours[c.week]? := by
  intro c server start prepared sent loaded settled
  have hload : loaded.result = .ok () := rfl
  have hempty : (loaded.grid.roster.entry? c).map Option.isSome = some false := by decide +kernel
  have hheld : (loaded.grid.roster.find? c.row).isSome := by decide +kernel
  obtain ⟨a, ha⟩ := Option.isSome_iff_exists.mp hheld
  have hrows : (sent.settled.map fun e ↦ e.1.row).Nodup :=
    SentWrite.nodup_rows_settled (PreparedWrite.prepared_send prepared.1 RowServer.backend server)
  have hcommitted : c.row ∈ sent.report.committed := by decide +kernel
  obtain ⟨stored?, hout⟩ := (SentWrite.mem_committed_report_iff hrows c.row).mp hcommitted
  obtain ⟨halone, hentry⟩ := committed_cells_settled_late start loaded.grid RowServer.backend [c] 8
    server c (by simp) stored? hout a ha
  have hone : (start.prepareHours [c] 8).1.plans.length = 1 := by decide +kernel
  obtain ⟨stored, rfl⟩ := Option.isSome_iff_exists.mp (halone.mpr hone)
  have hfilled : (settled.2.roster.entry? c).map Option.isSome = some true := by decide +kernel
  rw [hentry] at hfilled
  exact ⟨hload, by simpa using hempty, stored, hout, by simpa using hfilled, hentry⟩

/-- Two rows that were sent in a batch and taken are empty again after a load that still shows them
as they were before. -/
theorem load_overwrites_batch :
    let cells : List Cell := [⟨⟨7, 42⟩, ⟨"2024-01-01"⟩⟩, ⟨⟨7, 43⟩, ⟨"2024-01-01"⟩⟩]
    let server : RowServer :=
      { rows := [{ id := 42, person := 7, project := 3 }, { id := 43, person := 7, project := 4 }]
        nodup := by decide
        shown := [7] }
    let start := (({} : Grid).load RowServer.backend {} server).grid
    let prepared := start.prepareHours cells 8
    let sent := (prepared.1.send RowServer.backend server).1
    let loaded := prepared.2.load RowServer.backend {} server
    let settled := loaded.grid.settleHours sent
    loaded.result = .ok () ∧ settled.1.committed = cells.map Cell.row ∧
      ∀ c ∈ cells, settled.2.roster.entry? c = some none := by
  intro cells server start prepared sent loaded settled
  have hload : loaded.result = .ok () := rfl
  have hcommitted : settled.1.committed = cells.map Cell.row := by decide +kernel
  have hentries : ∀ c ∈ cells, (settled.2.roster.entry? c).map Option.isSome = some false := by
    decide +kernel
  refine ⟨hload, hcommitted, ?_⟩
  intro c hc
  simpa using hentries c hc

end AssignmentGrid
