import AssignmentGrid.Backend.Script
import AssignmentGrid.Proofs.Doubles
import AssignmentGrid.Proofs.Reachable
import AssignmentGrid.Proofs.WriteEnd

/-!
# The end of a commit

In a reachable grid an open edit can always be committed: the selection is in shape, so several
selected cells pass the check before the write, and all cells that are written to lie in one row.
The commit asks the backend at most once, for that row. Specification `SPEC_FULL.md:113–118`.
-/

namespace AssignmentGrid

/-- Bringing hours into the bounds of a cell once is enough, unless the cap is below zero. -/
theorem Hours.clamp_clamp {cap : Float} (hcap : ¬ cap < 0) (value : Float) :
    clamp cap (clamp cap value) = clamp cap value := by
  by_cases hbad : (!value.isFinite || value < 0) = true
  · have hnone : clamp cap value = 0 := if_pos hbad
    have hzero : clamp cap 0 = 0 := by simp [clamp, hcap]
    rw [hnone, hzero]
  · by_cases hlt : cap < value
    · have hcapped : clamp cap value = cap := (if_neg hbad).trans (if_pos hlt)
      have hvalue : value.isFinite = true := by
        simp only [Bool.or_eq_true, Bool.not_eq_true', not_or, Bool.not_eq_false] at hbad
        exact hbad.1
      -- the cap itself is then within the bounds, which the second time finds
      have hfinite : cap.isFinite = true :=
        float_isFinite_of_le (float_le_of_lt hlt) hcap hvalue
      rw [hcapped]
      simp [clamp, hcap, hfinite]
    · have hkept : clamp cap value = value := (if_neg hbad).trans (if_neg hlt)
      rw [hkept, hkept]

/-! ### Writing to one row -/

/-- What is reported when a row is sent by itself, by the answer of the backend. -/
def WriteReport.ofAnswer (row : RowKey) : Answer Assignment → WriteReport
  | .ok _ => { committed := [row] }
  | .error e => { failed := [(row, e.message)] }

theorem WriteReport.isSuccess_ofAnswer (row : RowKey) (answer : Answer Assignment) :
    (ofAnswer row answer).isSuccess = true ↔ ∃ stored, answer = .ok stored := by
  cases answer with
  | ok stored => exact ⟨fun _ ↦ ⟨stored, rfl⟩, fun _ ↦ rfl⟩
  | error e => exact ⟨nofun, nofun⟩

section

variable {cells : List Cell} {row : RowKey}

/-- For cells of one row there is a plan if the row is held. -/
theorem Sheet.plans_prepare_of_one_row (s : Sheet) (hcells : cells ≠ [])
    (hrow : ∀ c ∈ cells, c.row = row) (value : Float) :
    (s.prepare cells value).1.plans =
      ((s.roster.find? row).map (RowPlan.ofRow cells value row)).toList := by
  rw [Sheet.plans_prepare, rowsOf_eq_singleton hcells hrow]
  cases hheld : s.roster.find? row with
  | none => simp [hheld]
  | some a => simp [hheld]

/-- For cells of one row that is held, this row is sent by itself. -/
theorem Sheet.send_prepare_of_held (s : Sheet) (hcells : cells ≠ [])
    (hrow : ∀ c ∈ cells, c.row = row) {a : Assignment} (ha : s.roster.find? row = some a)
    (value : Float) {σ : Type} (b : Backend σ) (state : σ) :
    let plan := RowPlan.ofRow cells value row a
    let prepared : PreparedWrite := ⟨[plan], []⟩
    (s.prepare cells value).1.send b state =
      (⟨prepared, [PreparedWrite.outcomeAlone b state plan]⟩,
        (b.updateHours row.assignment plan.hours state).2) := by
  intro plan prepared
  have hplans : (s.prepare cells value).1.plans = [plan] := by
    rw [s.plans_prepare_of_one_row hcells hrow, ha]
    rfl
  have hskipped : (s.prepare cells value).1.skipped = [] := by
    rw [s.skipped_prepare, rowsOf_eq_singleton hcells hrow, List.filter_singleton, ha]
    rfl
  have hprepared : (s.prepare cells value).1 = prepared := by
    change PreparedWrite.mk (s.prepare cells value).1.plans (s.prepare cells value).1.skipped = _
    rw [hplans, hskipped]
  rw [hprepared]
  exact PreparedWrite.send_of_single prepared b state rfl

namespace Grid

variable (g : Grid) {σ : Type} (b : Backend σ) (s : σ)

/-- Writing hours changes nothing but rows, totals and events. -/
theorem applyHours_grid (cells : List Cell) (value : Float) :
    (g.applyHours b cells value s).grid =
      { g with
        sheet := (g.applyHours b cells value s).grid.sheet
        events := (g.applyHours b cells value s).grid.events } := by
  unfold applyHours
  dsimp only
  split
  · rfl
  · rfl

/-- A row that is held is sent by itself, and reported by what the backend answers. -/
theorem applyHours_of_held (hcells : cells ≠ []) (hrow : ∀ c ∈ cells, c.row = row) {a : Assignment}
    (ha : g.roster.find? row = some a) (value : Float) :
    let plan := RowPlan.ofRow cells (Hours.clamp g.hoursCap value) row a
    let answer := b.updateHours row.assignment plan.hours s
    (g.applyHours b cells value s).backend = answer.2 ∧
      (g.applyHours b cells value s).result = .ofAnswer row answer.1 := by
  intro plan answer
  have hsent := g.sheet.send_prepare_of_held hcells hrow ha (Hours.clamp g.hoursCap value) b s
  constructor
  · have hwrite := congrArg Prod.snd (g.applyHours_eq_write b cells value s)
    exact hwrite.trans (congrArg Prod.snd hsent)
  · rw [result_applyHours, hsent]
    change WriteReport.add {} row (PreparedWrite.outcomeAlone b s plan) = .ofAnswer row answer.1
    unfold PreparedWrite.outcomeAlone
    split
    · next stored hanswer => exact congrArg (WriteReport.ofAnswer row) hanswer.symm
    · next e hanswer => exact congrArg (WriteReport.ofAnswer row) hanswer.symm

/-- For a row that is not held the backend is not asked. -/
theorem applyHours_of_not_held (hcells : cells ≠ []) (hrow : ∀ c ∈ cells, c.row = row)
    (hnone : g.roster.find? row = none) (value : Float) :
    (g.applyHours b cells value s).backend = s ∧
      (g.applyHours b cells value s).result.isSuccess = true := by
  have hplans : (g.prepareHours cells value).1.plans = [] := by
    refine (g.sheet.plans_prepare_of_one_row hcells hrow _).trans ?_
    rw [show g.sheet.roster.find? row = none from hnone]
    rfl
  unfold applyHours
  dsimp only
  rw [hplans]
  exact ⟨rfl, rfl⟩

end Grid

end

/-! ### Targets -/

namespace Grid

variable {g : Grid}

/-- The cells to which an edit is committed: the selected ones if there are several, else the
edited one. -/
def targets (g : Grid) (edit : CellEdit) : List Cell :=
  if g.selection.isMulti then g.selection.cells else [edit.cell]

/-- The hours that a commit writes: what was typed is brought into the bounds of a cell, and once
more by the write. -/
def committedHours (g : Grid) (edit : CellEdit) : Float :=
  Hours.clamp g.hoursCap (Hours.ofTyped g.hoursCap edit.raw)

/-- With the selection in shape, the check before a commit passes. -/
theorem IsCoherent.commitCells (h : g.IsCoherent) (edit : CellEdit) :
    g.commitCells edit = .ok (g.targets edit) := by
  unfold Grid.commitCells targets
  cases hmulti : g.selection.isMulti with
  | true =>
    -- a selection of several cells is a block, and a block passes the check
    obtain ⟨anchor, focus, hextent, -⟩ := Selection.Coherent.isBlock h hmulti
    have hscope : edit.scope g.selection = .bulk g.selection.cells := by
      rw [CellEdit.scope, hextent]
      exact if_pos (of_decide_eq_true hmulti)
    rw [hscope]
    dsimp only
    rw [Selection.Coherent.validate h hmulti]
    rfl
  | false =>
    have hscope : edit.scope g.selection = .single edit.cell := by
      unfold CellEdit.scope
      split
      · next cells start hextent =>
        refine if_neg ?_
        rw [Selection.isMulti, Selection.cells, hextent] at hmulti
        exact of_decide_eq_false hmulti
      · rfl
      · rfl
    rw [hscope]
    rfl

/-- With the selection in shape, the targets of a commit lie in one row. -/
theorem IsCoherent.targets_row (h : g.IsCoherent) (edit : CellEdit) :
    ∃ row, g.targets edit ≠ [] ∧ ∀ c ∈ g.targets edit, c.row = row := by
  unfold targets
  cases hmulti : g.selection.isMulti with
  | true =>
    obtain ⟨anchor, focus, -, hblock⟩ := Selection.Coherent.isBlock h hmulti
    refine ⟨anchor.row, ?_, fun c hc ↦ hblock.row_eq hc⟩
    have hlength : 1 < g.selection.cells.length := of_decide_eq_true hmulti
    exact List.ne_nil_of_length_pos (Nat.zero_lt_of_lt hlength)
  | false => exact ⟨edit.cell.row, List.cons_ne_nil _ _, by simp⟩

/-- With the selection in shape, an edit of the focus is committed to the selected cells. -/
theorem IsCoherent.targets_of_focus (h : g.IsCoherent) {edit : CellEdit}
    (hfocus : g.selection.focus? = some edit.cell) : g.targets edit = g.selection.cells := by
  have hmem : edit.cell ∈ g.selection.cells := Selection.Coherent.focus_mem h hfocus
  unfold targets
  split
  · rfl
  · next hmulti =>
    -- less than two cells are selected, and the focus is one of them
    rw [Selection.isMulti, decide_eq_true_iff, Nat.not_lt] at hmulti
    obtain ⟨c, hc⟩ := List.length_eq_one_iff.mp
      (Nat.le_antisymm hmulti (List.length_pos_of_mem hmem))
    rw [hc] at hmem ⊢
    rw [List.mem_singleton.mp hmem]

/-- With the selection in shape, a commit writes to its targets. -/
theorem IsCoherent.commit (h : g.IsCoherent) {edit : CellEdit} (hedit : g.edit? = some edit)
    {σ : Type} (b : Backend σ) (s : σ) :
    let reply := g.cancelEdit.applyHours b (g.targets edit) (Hours.ofTyped g.hoursCap edit.raw) s
    g.commit b s = ⟨.ok (some reply.result),
      if reply.result.isSuccess then reply.grid.select (g.cellAfter edit.cell) false
      else reply.grid, reply.backend⟩ := by
  intro reply
  have hcells : g.cancelEdit.commitCells edit = .ok (g.targets edit) := h.commitCells edit
  unfold Grid.commit
  rw [hedit]
  dsimp only
  rw [hcells]
  rfl

/-- Hours are typed into the cells that are selected from an anchor on, and are committed. If the
row of the anchor is held, it is sent by itself, with its hours overwritten in the selected
weeks. -/
theorem IsCoherent.commit_typed (h : g.IsCoherent) {anchor : Cell}
    (hanchor : g.selection.anchor? = some anchor) {a : Assignment}
    (ha : g.roster.find? anchor.row = some a) (text : String) {σ : Type} (b : Backend σ) (s : σ) :
    let hours := a.hours.fill (g.selection.cells.map Cell.week)
      (Hours.clamp g.hoursCap (Hours.ofTyped g.hoursCap text))
    let answer := b.updateHours anchor.row.assignment hours s
    let reply := (g.startEdit.2.setText text).commit b s
    reply.result = .ok (some (.ofAnswer anchor.row answer.1)) ∧ reply.backend = answer.2 := by
  intro hours answer reply
  obtain ⟨⟨focus, hfocus, -⟩, hrow⟩ := Selection.Coherent.row_of_anchor h hanchor
  let edit := (CellEdit.start focus (g.hours focus)).setText text
  let typed : Grid := { g with edit? := some edit }
  have htyped : g.startEdit.2.setText text = typed := by
    unfold startEdit
    rw [hfocus]
    rfl
  have hcoherent : typed.IsCoherent := h
  have htargets : typed.targets edit = g.selection.cells := hcoherent.targets_of_focus hfocus
  have hsome : g.selection.cells ≠ [] :=
    List.ne_nil_of_mem (Selection.Coherent.focus_mem h hfocus)
  have hcommit := hcoherent.commit (show typed.edit? = some edit from rfl) b s
  obtain ⟨hbackend, hreport⟩ := typed.cancelEdit.applyHours_of_held b s hsome hrow ha
    (Hours.ofTyped g.hoursCap text)
  have hhours : (RowPlan.ofRow g.selection.cells (Hours.clamp typed.cancelEdit.hoursCap
      (Hours.ofTyped g.hoursCap text)) anchor.row a).hours = hours :=
    RowPlan.hours_ofRow_of_one_row hrow _ a
  rw [hhours] at hbackend hreport
  rw [htargets] at hcommit
  rw [show reply = typed.commit b s from congrArg (·.commit b s) htyped, hcommit]
  exact ⟨congrArg (Except.ok ∘ some) hreport, hbackend⟩

end Grid

/-! ### Commits -/

/-- What a commit of an edit leaves behind: `reply` is what it gives, `row` the row that it writes
to, and `report` tells what became of the row. -/
structure CommitEnd {σ : Type} (g : Grid) (edit : CellEdit) (b : Backend σ) (s : Logged σ)
    (reply : Reply (Logged σ) (Except GridError (Option WriteReport))) (row : RowKey)
    (report : WriteReport) : Prop where
  result : reply.result = .ok (some report)
  closed : reply.grid.edit? = none
  /-- All targets lie in the row. -/
  of_row : g.targets edit ≠ [] ∧ ∀ c ∈ g.targets edit, c.row = row
  /-- A row that is held is sent by itself, with its hours overwritten in the targeted weeks. -/
  held : ∀ a, g.roster.find? row = some a → ∃ hours,
    (∀ week, hours[week]? =
      if (⟨row, week⟩ : Cell) ∈ g.targets edit then some (g.committedHours edit)
      else a.hours[week]?) ∧
    reply.backend.calls = s.calls ++ [.updateHours row.assignment hours] ∧
    (report.isSuccess = true ↔
      ∃ stored, (b.updateHours row.assignment hours s.state).1 = .ok stored)
  /-- For a row that is not held the backend is not asked. -/
  absent : g.roster.find? row = none → reply.backend = s ∧ report.isSuccess = true
  /-- The selection moves on if no row was refused, -/
  moved : report.isSuccess = true →
    reply.grid.selection = g.selection.pick (g.cellAfter edit.cell)
  /-- and stays otherwise. -/
  stayed : report.isSuccess = false → reply.grid.selection = g.selection
  /-- The typed hours are written, unless the cap is below zero. -/
  typed : ¬ g.hoursCap < 0 → g.committedHours edit = Hours.ofTyped g.hoursCap edit.raw

/-- A commit with the selection in shape. -/
theorem Grid.IsCoherent.commitEnd {g : Grid} (h : g.IsCoherent) {edit : CellEdit}
    (hedit : g.edit? = some edit) {σ : Type} (b : Backend σ) (s : Logged σ) :
    ∃ row report, CommitEnd g edit b s (g.commit b.logged s) row report := by
  let written := g.cancelEdit.applyHours b.logged (g.targets edit)
    (Hours.ofTyped g.hoursCap edit.raw) s
  obtain ⟨row, hcells, hrow⟩ := h.targets_row edit
  have hcommit := h.commit hedit b.logged s
  have hgrid := g.cancelEdit.applyHours_grid b.logged s (g.targets edit)
    (Hours.ofTyped g.hoursCap edit.raw)
  have hselection : written.grid.selection = g.selection := congrArg (·.selection) hgrid
  have hclosed : written.grid.edit? = none := congrArg (·.edit?) hgrid
  refine ⟨row, written.result, ?_⟩
  rw [hcommit]
  constructor
  case result => rfl
  case closed =>
    dsimp only
    split
    · exact hclosed
    · exact hclosed
  case of_row => exact ⟨hcells, hrow⟩
  case held =>
    intro a ha
    obtain ⟨hbackend, hreport⟩ := g.cancelEdit.applyHours_of_held b.logged s hcells hrow ha
      (Hours.ofTyped g.hoursCap edit.raw)
    refine ⟨_, RowPlan.getElem?_hours_ofRow _ _ row a, congrArg Logged.calls hbackend, ?_⟩
    rw [hreport]
    exact WriteReport.isSuccess_ofAnswer row _
  case absent =>
    intro hnone
    exact g.cancelEdit.applyHours_of_not_held b.logged s hcells hrow hnone _
  case moved =>
    intro hsuccess
    dsimp only
    rw [if_pos hsuccess]
    exact congrArg (·.pick (g.cellAfter edit.cell)) hselection
  case stayed =>
    intro hfailed
    dsimp only
    rw [if_neg (Bool.eq_false_iff.mp hfailed)]
    exact hselection
  case typed => exact fun hcap ↦ Hours.clamp_clamp hcap _

/-- A commit in a reachable grid, whatever the backend answers. -/
theorem commit_end {g : Grid} (h : g.Reachable) {edit : CellEdit} (hedit : g.edit? = some edit)
    {σ : Type} (b : Backend σ) (s : Logged σ) :
    ∃ row report, CommitEnd g edit b s (g.commit b.logged s) row report :=
  h.isCoherent.commitEnd hedit b s

/-- Six hours are committed to two weeks of a row that is locked: the row is sent once, and the two
weeks stay selected. -/
theorem commit_end_of_locked_row :
    let first : Cell := ⟨⟨7, 42⟩, ⟨"2024-01-01"⟩⟩
    let last : Cell := ⟨⟨7, 42⟩, ⟨"2024-01-08"⟩⟩
    let script : Script :=
      { standing? := some
          { weeks := [first.week, last.week]
            people := [⟨7, "Ada Park"⟩]
            rows := [{ id := 42, person := 7, project := 1 }] }
        locked := [42] }
    let actions : List Action :=
      [.operation (.load {}), .gesture (.select first false), .gesture (.select last true),
        .gesture .startEdit, .gesture (.setText "6")]
    let g := (Action.run Script.backend actions ({}, script)).1
    let reply := g.commit Script.backend.logged ⟨script, []⟩
    g.Reachable ∧ g.edit? = some ⟨last, "6"⟩ ∧
      (∃ hours, reply.backend.calls = [.updateHours 42 hours] ∧
        hours[first.week]? = some (g.committedHours ⟨last, "6"⟩) ∧
        hours[last.week]? = some (g.committedHours ⟨last, "6"⟩)) ∧
      reply.grid.selection = g.selection := by
  intro first last script actions g reply
  have hreachable : g.Reachable := .run Script.backend (.new {} Hours.weekCap) actions script
  have hedit : g.edit? = some ⟨last, "6"⟩ := by decide +kernel
  obtain ⟨row, report, hend⟩ :
      ∃ row report, CommitEnd g ⟨last, "6"⟩ Script.backend ⟨script, []⟩ reply row report :=
    commit_end hreachable hedit Script.backend ⟨script, []⟩
  have htargets : g.targets ⟨last, "6"⟩ = [first, last] := by decide +kernel
  obtain rfl : first.row = row := hend.of_row.2 first (by rw [htargets]; simp)
  have hheld : (g.roster.find? first.row).isSome := by decide +kernel
  obtain ⟨a, ha⟩ := Option.isSome_iff_exists.mp hheld
  obtain ⟨hours, hhours, hcalls, htaken⟩ := hend.held a ha
  have hrefused : report.isSuccess = false := by
    have hanswer : (Script.backend.updateHours 42 hours script).1 =
        .error (.validation "assignment is locked") := rfl
    rw [Bool.eq_false_iff, ne_eq, htaken]
    rintro ⟨stored, hstored⟩
    exact nomatch hanswer.symm.trans hstored
  refine ⟨hreachable, hedit, ⟨hours, hcalls, ?_, ?_⟩, hend.stayed hrefused⟩
  · rw [hhours, htargets]
    exact if_pos List.mem_cons_self
  · rw [hhours, htargets]
    exact if_pos (List.mem_cons_of_mem _ List.mem_cons_self)

/-- With a cap below zero the typed hours are brought into the bounds twice, and the row is sent
with other hours than the first time gave. -/
theorem commit_below_zero :
    let c : Cell := ⟨⟨7, 42⟩, ⟨"2024-01-01"⟩⟩
    let script : Script :=
      { standing? := some
          { weeks := [c.week]
            people := [⟨7, "Ada Park"⟩]
            rows := [{ id := 42, person := 7, project := 1 }] } }
    let actions : List Action :=
      [.operation (.load {}), .gesture (.select c false), .gesture .startEdit,
        .gesture (.setText "3")]
    let g := (Action.run Script.backend actions ({ hoursCap := -5 }, script)).1
    let reply := g.commit Script.backend.logged ⟨script, []⟩
    g.Reachable ∧ g.edit? = some ⟨c, "3"⟩ ∧
      ∃ hours, reply.backend.calls = [.updateHours 42 hours] ∧
        hours[c.week]? ≠ some (Hours.ofTyped g.hoursCap "3") := by
  intro c script actions g reply
  have hreachable : g.Reachable := .run Script.backend (.new {} (-5)) actions script
  have hedit : g.edit? = some ⟨c, "3"⟩ := by decide +kernel
  obtain ⟨row, report, hend⟩ :
      ∃ row report, CommitEnd g ⟨c, "3"⟩ Script.backend ⟨script, []⟩ reply row report :=
    hreachable.isCoherent.commitEnd hedit Script.backend ⟨script, []⟩
  have htargets : g.targets ⟨c, "3"⟩ = [c] := by decide +kernel
  obtain rfl : c.row = row := hend.of_row.2 c (by rw [htargets]; simp)
  have hheld : (g.roster.find? c.row).isSome := by decide +kernel
  obtain ⟨a, ha⟩ := Option.isSome_iff_exists.mp hheld
  obtain ⟨hours, hhours, hcalls, -⟩ := hend.held a ha
  refine ⟨hreachable, hedit, hours, hcalls, ?_⟩
  have hbits : (g.committedHours ⟨c, "3"⟩).toBits ≠ (Hours.ofTyped g.hoursCap "3").toBits := by
    decide +kernel
  rw [hhours, htargets, if_pos List.mem_cons_self]
  intro hsame
  exact hbits (congrArg Float.toBits (Option.some.inj hsame))

end AssignmentGrid
