import AssignmentGrid.Proofs.CommitEnd
import AssignmentGrid.Proofs.ReadHours

/-!
# Untouched edits

An edit that is opened on a cell and committed as it stands writes to the cell what it holds. The
row is sent to the backend all the same, and whatever the backend answers, no other cell changes;
the cell itself changes only if the backend returns other hours than it was sent. Specification
`SPEC_FULL.md:110,113–118,123–125`.
-/

namespace AssignmentGrid

namespace Grid

variable {σ : Type}

/-- What a cell shows after a write: settling decides about a row that is held. -/
theorem hours_applyHours (g : Grid) (b : Backend σ) (s : σ) (cells : List Cell) (value : Float)
    (c : Cell) :
    let prepared := (g.sheet.prepare cells (Hours.clamp g.hoursCap value)).1
    (g.applyHours b cells value s).grid.hours c =
      match g.roster.find? c.row with
      | some a => (settling (prepared.send b s).1.settled c.row
          (Sheet.overwriting prepared.plans c.row a.hours)).amount c.week
      | none => 0 := by
  intro prepared
  unfold hours
  rw [roster_applyHours, Roster.find?_revise]
  cases g.roster.find? c.row with
  | none => rfl
  | some a => rfl

/-- A cell that is not written shows what it showed, whatever the backend answers. -/
theorem hours_applyHours_of_notMem (g : Grid) (b : Backend σ) (s : σ) {cells : List Cell}
    (value : Float) {c : Cell} (hc : c ∉ cells) :
    (g.applyHours b cells value s).grid.hours c = g.hours c := by
  rw [hours_applyHours, hours]
  cases ha : g.roster.find? c.row with
  | none => rfl
  | some a =>
    dsimp only
    -- the row may be written in other weeks
    rcases outcome?_send_or_not_named g.sheet cells (Hours.clamp g.hoursCap value) b s ha with
      ⟨outcome, houtcome⟩ | hnot
    · rw [Hours.amount, getElem?_settling_overwriting g.sheet cells _ b s houtcome ha, if_neg hc]
      rfl
    · rw [settling_overwriting_of_not_named g.sheet cells _ b s ha hnot]

/-- A cell that is written shows what the backend returns, or what it showed if the backend refuses
its row, when all cells of the write lie in one row that is held. -/
theorem hours_applyHours_of_mem (g : Grid) (b : Backend σ) (s : σ) {cells : List Cell}
    {row : RowKey} (hrow : ∀ c ∈ cells, c.row = row) {a : Assignment}
    (ha : g.roster.find? row = some a) (value : Float) {c : Cell} (hc : c ∈ cells) :
    let plan := RowPlan.ofRow cells (Hours.clamp g.hoursCap value) row a
    (g.applyHours b cells value s).grid.hours c =
      match (b.updateHours row.assignment plan.hours s).1 with
      | .ok stored => stored.hours.amount c.week
      | .error _ => g.hours c := by
  intro plan
  obtain rfl : c.row = row := hrow c hc
  have hsent := g.sheet.send_prepare_of_held (List.ne_nil_of_mem hc) hrow ha
    (Hours.clamp g.hoursCap value) b s
  have houtcome : ((g.sheet.prepare cells (Hours.clamp g.hoursCap value)).1.send b s).1.outcome?
      c.row = some (PreparedWrite.outcomeAlone b s plan) := by
    apply SentWrite.outcome?_of_mem (nodup_rows_settled_send g.sheet cells _ b s) (e := (plan, _))
    rw [hsent]
    exact List.mem_singleton_self _
  have hentry := getElem?_settling_overwriting g.sheet cells _ b s houtcome ha c.week
  rw [hours_applyHours, ha]
  dsimp only
  have halone : PreparedWrite.outcomeAlone b s plan =
      match (b.updateHours c.row.assignment plan.hours s).1 with
      | .ok stored => .committed (some stored)
      | .error e => .failed e.message := rfl
  rw [Hours.amount, hentry, if_pos hc, halone, hours, ha]
  cases (b.updateHours c.row.assignment plan.hours s).1 with
  | ok stored => rfl
  | error e => rfl

end Grid

/-- What committing an untouched edit of a cell leaves behind: the row of the cell is `a`, and
`hours` are those that it is sent with. -/
structure UntouchedEnd {σ : Type} (g : Grid) (c : Cell) (a : Assignment) (b : Backend σ)
    (s : Logged σ) (reply : Reply (Logged σ) (Except GridError (Option WriteReport)))
    (hours : Hours) : Prop where
  /-- The row is sent once, -/
  called : reply.backend.calls = s.calls ++ [.updateHours c.row.assignment hours]
  /-- with the hours that the cell had -/
  sent : ∃ value, hours[c.week]? = some value ∧ value == g.hours c
  /-- and in all other weeks with those of the row. -/
  alongside : ∀ week, week ≠ c.week → hours[week]? = a.hours[week]?
  /-- If the backend refuses the row, the cell has its hours, -/
  refused : ∀ e, (b.updateHours c.row.assignment hours s.state).1 = .error e →
    reply.grid.hours c = g.hours c
  /-- and so it has if the backend returns the hours that it was sent. -/
  taken : ∀ stored, (b.updateHours c.row.assignment hours s.state).1 = .ok stored →
    stored.hours = hours → reply.grid.hours c == g.hours c
  /-- All other cells have their hours, whatever the backend answers. -/
  others : ∀ d, d ≠ c → reply.grid.hours d = g.hours d

/-- An edit of a cell that is selected alone, committed as it was opened, writes to this cell only
what its text stands for. -/
theorem Grid.IsCoherent.commit_startEdit {g : Grid} (h : g.IsCoherent) {c : Cell}
    (hcell : g.selection.cell? = some c) {σ : Type} (b : Backend σ) (s : σ) :
    let typed := Hours.ofTyped g.hoursCap (String.ofList (Hours.text (g.hours c)))
    let written := g.cancelEdit.applyHours b [c] typed s
    let reply := g.startEdit.2.commit b s
    reply.backend = written.backend ∧ ∀ d, reply.grid.hours d = written.grid.hours d := by
  intro typed written reply
  have hfocus : g.selection.focus? = some c := Selection.Coherent.focus_of_cell? h hcell
  let edit := CellEdit.start c (g.hours c)
  let opened : Grid := { g with edit? := some edit }
  have hopened : g.startEdit.2 = opened := by
    unfold Grid.startEdit
    rw [hfocus]
  have hcoherent : opened.IsCoherent := h
  have htargets : opened.targets edit = [c] :=
    (hcoherent.targets_of_focus hfocus).trans (Selection.cells_of_cell? hcell)
  have hcommit := hcoherent.commit rfl b s
  rw [htargets] at hcommit
  have hreply : reply = ⟨.ok (some written.result),
      if written.result.isSuccess then written.grid.select (opened.cellAfter c) false
      else written.grid, written.backend⟩ :=
    (congrArg (·.commit b s) hopened).trans hcommit
  rw [hreply]
  refine ⟨rfl, fun d ↦ ?_⟩
  -- the selection may move on, which changes no hours
  dsimp only
  split
  · rfl
  · rfl

/-- An edit of a cell that is selected alone, committed as it was opened. -/
theorem Grid.IsCoherent.untouchedEnd {g : Grid} (h : g.IsCoherent) {c : Cell}
    (hcell : g.selection.cell? = some c) {a : Assignment} (ha : g.roster.find? c.row = some a)
    (hbounds : Hours.InBounds g.hoursCap (g.hours c)) (hread : Hours.IsReadBack (g.hours c))
    {σ : Type} (b : Backend σ) (s : Logged σ) :
    ∃ hours, UntouchedEnd g c a b s (g.startEdit.2.commit b.logged s) hours := by
  let typed := Hours.ofTyped g.hoursCap (String.ofList (Hours.text (g.hours c)))
  have htyped : SameNumber typed (g.hours c) := hbounds.sameNumber_ofTyped hread
  have hclamped : Hours.clamp g.hoursCap typed = typed :=
    Hours.clamp_of_inBounds (hbounds.congr htyped)
  let hours := (RowPlan.ofRow [c] typed c.row a).hours
  have hentry (week : WeekKey) : hours[week]? =
      if (⟨c.row, week⟩ : Cell) ∈ [c] then some typed else a.hours[week]? :=
    RowPlan.getElem?_hours_ofRow _ _ _ _ week
  have hweek : hours[c.week]? = some typed := (hentry c.week).trans (if_pos List.mem_cons_self)
  let written := g.cancelEdit.applyHours b.logged [c] typed s
  have hrow : ∀ d ∈ [c], d.row = c.row := by simp
  have hcalled : written.backend = (b.logged.updateHours c.row.assignment hours s).2 := by
    have hbackend := (g.cancelEdit.applyHours_of_held b.logged s (List.cons_ne_nil c []) hrow ha
      typed).1
    rwa [show Hours.clamp g.cancelEdit.hoursCap typed = typed from hclamped] at hbackend
  have hshown : written.grid.hours c =
      match (b.updateHours c.row.assignment hours s.state).1 with
      | .ok stored => stored.hours.amount c.week
      | .error _ => g.hours c := by
    have hmem := g.cancelEdit.hours_applyHours_of_mem b.logged s hrow ha typed
      (List.mem_cons_self (a := c) (l := []))
    rwa [show Hours.clamp g.cancelEdit.hoursCap typed = typed from hclamped] at hmem
  obtain ⟨hbackend, hlater⟩ := h.commit_startEdit hcell b.logged s
  refine ⟨hours, ?_⟩
  constructor
  case called =>
    rw [hbackend]
    exact congrArg Logged.calls hcalled
  case sent => exact ⟨typed, hweek, htyped.beq hbounds.finite⟩
  case alongside =>
    intro week hne
    rw [hentry]
    exact if_neg fun hmem ↦ hne (congrArg Cell.week (List.mem_singleton.mp hmem))
  case refused =>
    intro e hanswer
    rw [hlater, show written.grid.hours c = _ from hshown, hanswer]
  case taken =>
    intro stored hanswer hstored
    rw [hlater, show written.grid.hours c = _ from hshown, hanswer]
    dsimp only
    rw [hstored, Hours.amount, hweek]
    exact htyped.beq hbounds.finite
  case others =>
    intro d hne
    rw [hlater]
    exact g.cancelEdit.hours_applyHours_of_notMem b.logged s typed
      fun hmem ↦ hne (List.mem_singleton.mp hmem)

/-- Hours between zero and the cap, written as a text and typed again, are the same number. So an
edit that is opened on the one selected cell of a held row and committed as it stands sends the
hours that the cell has, and changes no cell. -/
theorem untouched_edit {cap value : Float} (hcap : cap.isFinite = true) (hnonneg : 0 ≤ value)
    (hle : value ≤ cap) (hread : Hours.IsReadBack value) :
    Hours.ofTyped cap (String.ofList (Hours.text value)) == value ∧
      ∀ g : Grid, g.Reachable → g.hoursCap = cap →
        ∀ c a, g.selection.cell? = some c → g.roster.find? c.row = some a → g.hours c = value →
          ∀ {σ : Type} (b : Backend σ) (s : Logged σ),
            ∃ hours, UntouchedEnd g c a b s (g.startEdit.2.commit b.logged s) hours := by
  have hbounds : Hours.InBounds cap value :=
    ⟨float_isFinite_of_le hle (float_not_lt_of_le hnonneg) hcap, hnonneg, hle⟩
  refine ⟨(hbounds.sameNumber_ofTyped hread).beq hbounds.finite, ?_⟩
  rintro g hg rfl c a hcell ha rfl σ b s
  exact hg.isCoherent.untouchedEnd hcell ha hbounds hread b s

/-- A cell of seven and a half hours is edited and left as it is: its row is sent with these hours,
and the cell keeps them, whether the row is locked or not. -/
theorem untouched_edit_of_half_hours :
    let c : Cell := ⟨⟨7, 42⟩, ⟨"2024-01-01"⟩⟩
    let script : Script :=
      { standing? := some
          { weeks := [c.week]
            people := [⟨7, "Ada Park"⟩]
            rows := [{ id := 42, person := 7, project := 1
                       hours := (∅ : Hours).insert c.week 7.5 }] } }
    let actions : List Action := [.operation (.load {}), .gesture (.select c false)]
    let g := (Action.run Script.backend actions ({}, script)).1
    let reply (locked : List AssignmentId) :=
      g.startEdit.2.commit Script.backend.logged ⟨{ script with locked }, []⟩
    Hours.ofTyped Hours.weekCap (String.ofList (Hours.text 7.5)) == 7.5 ∧
      g.Reachable ∧ g.hours c = 7.5 ∧
      (∃ hours value, (reply []).backend.calls = [.updateHours 42 hours] ∧
        hours[c.week]? = some value ∧ value == 7.5) ∧
      (reply []).grid.hours c == 7.5 ∧ (reply [42]).grid.hours c = 7.5 := by
  intro c script actions g reply
  have hreachable : g.Reachable := .run Script.backend (.new {} Hours.weekCap) actions script
  have hhours : g.hours c = 7.5 := by decide +kernel
  have hheld : (g.roster.find? c.row).isSome := by decide +kernel
  obtain ⟨a, ha⟩ := Option.isSome_iff_exists.mp hheld
  have hread : Hours.IsReadBack 7.5 := fun _ ↦ by decide +kernel
  have hle : (7.5 : Float) ≤ Hours.weekCap := by decide +kernel
  obtain ⟨hsame, hedits⟩ := untouched_edit rfl (by decide +kernel) hle hread
  have hedit := hedits g hreachable rfl c a rfl ha hhours Script.backend
  obtain ⟨hours, htaken⟩ := hedit ⟨{ script with locked := [] }, []⟩
  obtain ⟨_, hrefused⟩ := hedit ⟨{ script with locked := [42] }, []⟩
  obtain ⟨value, hsent, hvalue⟩ := htaken.sent
  rw [hhours] at hvalue
  refine ⟨hsame, hreachable, hhours, ⟨hours, value, htaken.called, hsent, hvalue⟩, ?_, ?_⟩
  · have hkept := htaken.taken _ rfl rfl
    rwa [hhours] at hkept
  · exact (hrefused.refused _ rfl).trans hhours

end AssignmentGrid
