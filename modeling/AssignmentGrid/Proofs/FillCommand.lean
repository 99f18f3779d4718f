import AssignmentGrid.Proofs.OpenedGrid

/-!
# Filling weeks

The command that fills weeks drags over a row from one week to the other, types the hours and
commits them. It sends one request, for the row by itself, in which the weeks between the two ends
have the typed hours. Neither the end at which the drag began nor the way in which the weeks were
selected can be seen in it. Specification `SPEC_FULL.md:315,317–319`.
-/

namespace AssignmentGrid

/-- The cap of a cell is never below zero. -/
theorem Settings.effectiveCap_not_lt (s : Settings) : ¬ s.effectiveCap < 0 := by
  unfold effectiveCap
  split
  · next h => exact float_lt_asymm (of_decide_eq_true (Bool.and_eq_true_iff.mp h).2)
  · decide +kernel

namespace Cli

open Http (Client Connection Recorded Transport rowPath)

variable {τ : Type} {c : Context τ} {s opened found : Session τ} {limits : LoadLimits}
  {client : Client} {row : RowKey} {a : Assignment}

/-- A week that was read has a column. -/
theorem readWeek_eq_ok {axis : WeekAxis} {raw : String} {week : WeekKey}
    (h : readWeek axis raw = .ok week) : ∃ p, axis.position? week = some p := by
  unfold readWeek at h
  split at h
  · cases h
  · dsimp only at h
    split at h
    · next hon =>
      cases h
      obtain ⟨p, hp⟩ := List.mem_iff_getElem?.mp (WeekAxis.contains_iff.mp hon)
      exact ⟨p, WeekAxis.position?_eq_some_iff.mpr hp⟩
    · cases h

/-! ### What is found before the write -/

/-- How a command has come to a row: `opened` is the session with the loaded grid, and `found` the
one in which the row is held as `a`. -/
structure Finds (limits : LoadLimits) (c : Context τ) (s : Session τ) (client : Client)
    (opened : Session τ) (row : RowKey) (a : Assignment) (found : Session τ) : Prop where
  opens : Opens limits c s client opened
  ensured : (ensureRow (client.backend c.transport) row).outcome c opened = (.ok (), found)
  held : found.grid.roster.find? row = some a
  /-- The weeks are those that were loaded, -/
  axis : found.grid.axis = opened.grid.axis
  /-- and the cap is that of the settings. -/
  hoursCap : found.grid.hoursCap = c.settings.effectiveCap

/-- A fill that has found everything knows the row and both weeks. -/
theorem exists_finds {first last hours : String}
    (h : (Command.lookup (.fillHours limits row first last hours)).outcome c s = (.ok (), found)) :
    ∃ client opened a start stop, Finds limits c s client opened row a found ∧
      readWeek found.grid.axis first = .ok start ∧ readWeek found.grid.axis last = .ok stop := by
  unfold Command.lookup at h
  dsimp only at h
  obtain ⟨client, opened, hopens, hnext⟩ := exists_opens h
  rw [Run.outcome_bind_of_ok Run.outcome_grid] at hnext
  obtain ⟨start, s₁, hfirst, hnext⟩ := Run.outcome_bind_eq_ok_iff.mp hnext
  obtain ⟨stop, s₂, hlast, hrow⟩ := Run.outcome_bind_eq_ok_iff.mp hnext
  rw [Run.outcome_liftM] at hfirst hlast
  obtain ⟨hstart, rfl⟩ := Prod.mk.inj hfirst
  obtain ⟨hstop, rfl⟩ := Prod.mk.inj hlast
  obtain ⟨⟨a, ha⟩, haxis, hcap⟩ := ensureRow_eq_ok hrow
  refine ⟨client, opened, a, start, stop, ?_, haxis ▸ hstart, haxis ▸ hstop⟩
  exact ⟨hopens, hrow, ha, haxis, hcap.trans hopens.hoursCap_eq⟩

/-! ### What is sent for it -/

namespace Finds

variable (h : Finds limits c s client opened row a found)
include h

/-- Hours are typed into the cells that are selected from a cell of the row on: it is sent with its
hours overwritten in the weeks of these. -/
theorem connection_typeHours {g : Grid} (hsheet : g.sheet = found.grid.sheet)
    (hcap : g.hoursCap = found.grid.hoursCap) (hcoherent : g.IsCoherent) (anchor : Cell)
    (hanchor : g.selection.anchor? = some anchor) (hrow : anchor.row = row) (hours : String) :
    ((typeHours (client.backend c.transport) hours).outcome c
        { found with grid := g }).2.connection =
      ((client.backend c.transport).updateHours row.assignment
        (a.hours.fill (g.selection.cells.map Cell.week)
          (Hours.ofTyped c.settings.effectiveCap hours)) found.connection).2 := by
  have ha : g.roster.find? anchor.row = some a := by
    rw [Grid.roster, hsheet, hrow]
    exact h.held
  obtain ⟨grid, out, err, htyped⟩ := outcome_typeHours (client.backend c.transport)
    (s := { found with grid := g }) hcoherent hanchor ha hours c
  rw [htyped]
  dsimp only
  rw [hrow, hcap, h.hoursCap, Hours.ofTyped, Hours.clamp_clamp c.settings.effectiveCap_not_lt]

/-- Setting the hours of a week asks the backend for the row once. -/
theorem connection_setHours {raw : String} {week : WeekKey}
    (hweek : readWeek found.grid.axis raw = .ok week) (hours : String) :
    ((Command.run (.setHours limits row raw hours)).outcome c s).2.connection =
      ((client.backend c.transport).updateHours row.assignment
        (a.hours.fill [week] (Hours.ofTyped c.settings.effectiveCap hours))
        found.connection).2 := by
  unfold Command.run
  dsimp only
  rw [h.opens.outcome_onGrid]
  unfold setHours
  rw [h.axis] at hweek
  rw [Run.outcome_bind_of_ok Run.outcome_grid,
    Run.outcome_bind_of_ok (Run.outcome_liftM_of_ok hweek)]
  dsimp only
  rw [Run.outcome_bind_of_ok h.ensured, Run.outcome_bind_of_ok (Run.outcome_modifyGrid _)]
  refine (Run.Prints.connection_bind (fun _ ↦ .of_grid fun _ ↦ .tell _) c _).trans ?_
  exact h.connection_typeHours (g := found.grid.select ⟨row, week⟩ false) rfl rfl (.pick _ _)
    ⟨row, week⟩ rfl rfl hours

/-- Filling the weeks from one to another asks the backend for the row once. -/
theorem connection_fillHours {first last : String} {start stop : WeekKey} {p q : Nat}
    (hfirst : readWeek found.grid.axis first = .ok start)
    (hlast : readWeek found.grid.axis last = .ok stop)
    (hp : found.grid.axis.position? start = some p) (hq : found.grid.axis.position? stop = some q)
    (hours : String) :
    ((Command.run (.fillHours limits row first last hours)).outcome c s).2.connection =
      ((client.backend c.transport).updateHours row.assignment
        (a.hours.fill (found.grid.axis.span p q) (Hours.ofTyped c.settings.effectiveCap hours))
        found.connection).2 := by
  let begun : Cell := ⟨row, start⟩
  let reached : Cell := ⟨row, stop⟩
  let dragged := ((found.grid.beginDrag begun).dragTo reached).endDrag
  obtain ⟨hcoherent, hanchor⟩ :=
    Selection.Coherent.dragged found.grid.selection found.grid.axis begun reached
  have hweeks : dragged.selection.cells.map Cell.week = found.grid.axis.span p q :=
    Selection.Coherent.weeks_dragged found.grid.selection found.grid.axis begun reached rfl hp hq
  unfold Command.run
  dsimp only
  rw [h.opens.outcome_onGrid]
  unfold fillHours
  rw [h.axis] at hfirst hlast
  rw [Run.outcome_bind_of_ok Run.outcome_grid]
  dsimp only
  rw [Run.outcome_bind_of_ok (Run.outcome_liftM_of_ok hfirst),
    Run.outcome_bind_of_ok (Run.outcome_liftM_of_ok hlast), Run.outcome_bind_of_ok h.ensured,
    Run.outcome_bind_of_ok (Run.outcome_modifyGrid _), Run.outcome_bind_of_ok Run.outcome_grid]
  refine (Run.Prints.connection_bind (fun _ ↦ .of_grid fun _ ↦ .tell _) c _).trans ?_
  rw [← hweeks]
  exact h.connection_typeHours (g := dragged) rfl rfl hcoherent begun hanchor rfl hours

end Finds

/-! ### Runs -/

/-- The request for the hours of a row. -/
def hoursAsk (row : RowKey) (hours : Hours) : Http.Ask where
  method := .patch
  path := rowPath row.assignment
  body? := some (Json.ofMembers [("weekly_hours", hours.toJson)])

/-- Whether a week stands in one of two columns of the axis or between them. -/
def IsBetween (axis : WeekAxis) (p q : Nat) (week : WeekKey) : Prop :=
  ∃ n, axis.position? week = some n ∧ min p q ≤ n ∧ n ≤ max p q

/-- The columns of a span are those between its ends. -/
theorem isBetween_iff_mem_span {axis : WeekAxis} {start stop week : WeekKey} {p q : Nat}
    (hp : axis.position? start = some p) (hq : axis.position? stop = some q) :
    IsBetween axis p q week ↔ week ∈ axis.span p q :=
  (WeekAxis.mem_span_iff (WeekAxis.lt_size_of_position? hp)
    (WeekAxis.lt_size_of_position? hq)).symm

/-- What a fill leaves behind, where `found` is the session once the grid is loaded and the row is
held as `a`. The weeks from the column `p` to the column `q` are filled. -/
structure FillEnd (found : Session (Recorded τ)) (client : Client) (row : RowKey) (a : Assignment)
    (p q : Nat) (value : Float) (ended : Ended (Recorded τ)) : Prop where
  held : found.grid.roster.find? row = some a
  /-- The row is sent with the value in the filled weeks and as it was in all others. After `found`
  no other request is sent, and no other data are written at all. -/
  sent : ∃ hours request response?,
    (∀ week, IsBetween found.grid.axis p q week → hours[week]? = some value) ∧
    (∀ week, ¬ IsBetween found.grid.axis p q week → hours[week]? = a.hours[week]?) ∧
    client.request (hoursAsk row hours) = .ok request ∧
    ended.network.exchanges = found.connection.network.exchanges ++ [(request, response?)] ∧
    ended.written = [(request, response?)]

/-- A write of the row that fills the weeks of a span, where no data were written before. -/
theorem Finds.fillEnd {t : Transport τ} {c : Context (Recorded τ)} (hc : c.transport = t.recorded)
    {s opened found : Session (Recorded τ)} (h : Finds limits c s client opened row a found)
    (hquiet : found.connection.written = []) {start stop : WeekKey} {p q : Nat}
    (hp : found.grid.axis.position? start = some p) (hq : found.grid.axis.position? stop = some q)
    (value : Float) {ended : Ended (Recorded τ)}
    (hended : ended.network = ((client.backend c.transport).updateHours row.assignment
      (a.hours.fill (found.grid.axis.span p q) value) found.connection).2.network) :
    FillEnd found client row a p q value ended := by
  let sent := a.hours.fill (found.grid.axis.span p q) value
  obtain ⟨request, hrequest⟩ : ∃ request, client.request (hoursAsk row sent) = .ok request :=
    h.opens.exists_request (Http.isApiPath_rowPath _)
  obtain ⟨response?, hexchanges⟩ : ∃ response?, ended.network.exchanges =
      found.connection.network.exchanges ++ [(request, response?)] := by
    rw [hended, hc]
    exact client.exchanges_of_request t hrequest
  refine ⟨h.held, sent, request, response?, fun week hweek ↦ ?_, fun week hweek ↦ ?_, hrequest,
    hexchanges, ?_⟩
  · rw [isBetween_iff_mem_span hp hq] at hweek
    exact (Hours.getElem?_fill _ _ _ week).trans (if_pos hweek)
  · rw [isBetween_iff_mem_span hp hq] at hweek
    exact (Hours.getElem?_fill _ _ _ week).trans (if_neg hweek)
  · have hwrites : request.writesData = true := Client.writesData_of_request hrequest
    rw [Ended.written, hexchanges, List.filter_append, List.filter_singleton, hwrites]
    exact congrArg (· ++ _) hquiet

section

variable (i : Invocation) (w : Surroundings) (t : Transport τ) (network : τ)

/-- A run tells of the settings file first, whatever the command is. -/
theorem exists_told : ∃ told : Session τ, told.auth? = w.auth? ∧
    (∀ command : Command,
      (Invocation.run { i with command } w t network).network =
        (command.run.outcome (w.context i t) told).2.connection.network) ∧
    ∀ command : Command,
      (Invocation.lookup { i with command } w).outcome (w.context i t) (w.begin network) =
        command.lookup.outcome (w.context i t) told := by
  obtain ⟨out, err, htold⟩ := w.prints_tellFault (w.context i t) (w.begin network)
  refine ⟨{ w.begin network with out, err }, rfl, fun command ↦ ?_, fun command ↦ ?_⟩
  · change ((Invocation.body { i with command } w).outcome (w.context i t)
      (w.begin network)).2.connection.network = _
    unfold Invocation.body
    rw [Run.outcome_bind_of_ok htold]
  · unfold Invocation.lookup
    rw [Run.outcome_bind_of_ok htold]

end

/-- A fill that has found the grid, both weeks and the row sends one request, for the row by itself.
The weeks from one end to the other have the typed hours in it, brought into the bounds of a cell,
and all others the hours of the row in the grid. The same is sent if the ends change places, and if
both are one week, the same as for setting the hours of that week. -/
theorem fill_writes_range (i : Invocation) (w : Surroundings) (t : Transport τ) (network : τ)
    {limits : LoadLimits} {row : RowKey} {first last hours : String}
    {found : Session (Recorded τ)}
    (hfound : (Invocation.lookup { i with command := .fillHours limits row first last hours }
      w).outcome (w.context i t.recorded) (w.begin ⟨network, []⟩) = (.ok (), found)) :
    let ended (command : Command) :=
      Invocation.run { i with command } w t.recorded ⟨network, []⟩
    let fill := ended (.fillHours limits row first last hours)
    let axis := found.grid.axis
    ∃ client a start stop p q,
      connect.outcome (w.context i t.recorded) (w.begin ⟨network, []⟩) =
        (.ok client, w.begin ⟨network, []⟩) ∧
      readWeek axis first = .ok start ∧ axis.position? start = some p ∧
      readWeek axis last = .ok stop ∧ axis.position? stop = some q ∧
      FillEnd found client row a p q (Hours.ofTyped w.settings.effectiveCap hours) fill ∧
      (ended (.fillHours limits row last first hours)).network = fill.network ∧
      (start = stop → (ended (.setHours limits row first hours)).network = fill.network) := by
  intro ended fill axis
  obtain ⟨told, hauth, hrun, hlookup⟩ := exists_told i w t.recorded ⟨network, []⟩
  obtain ⟨client, opened, a, start, stop, hfinds, hfirst, hlast⟩ :=
    exists_finds ((hlookup _).symm.trans hfound)
  obtain ⟨p, hp⟩ := readWeek_eq_ok hfirst
  obtain ⟨q, hq⟩ := readWeek_eq_ok hlast
  let value := Hours.ofTyped w.settings.effectiveCap hours
  have hfill : fill.network = ((client.backend t.recorded).updateHours row.assignment
      (a.hours.fill (axis.span p q) value) found.connection).2.network :=
    (hrun _).trans (congrArg _ (hfinds.connection_fillHours hfirst hlast hp hq hours))
  have hquiet : found.connection.written = [] :=
    (Invocation.silent_lookup { i with command := .fillHours limits row first last hours }
      w t).written_eq_nil rfl hfound
  refine ⟨client, a, start, stop, p, q, ?_, hfirst, hp, hlast, hq,
    hfinds.fillEnd rfl hquiet hp hq value hfill, ?_, ?_⟩
  · -- connecting depends on the stored token, which telling has left alone
    have hconnected := hfinds.opens.connected
    rw [outcome_connect, hauth] at hconnected
    rw [outcome_connect]
    exact Prod.ext (Prod.mk.inj hconnected).1 rfl
  · -- the weeks from one column to another are those from the other to the one
    rw [hfill, WeekAxis.span_comm]
    exact (hrun _).trans (congrArg _ (hfinds.connection_fillHours hlast hfirst hq hp hours))
  · rintro rfl
    obtain rfl : p = q := Option.some.inj (hp.symm.trans hq)
    rw [hfill, WeekAxis.span_self hp]
    exact (hrun _).trans (congrArg _ (hfinds.connection_setHours hfirst hours))

/-- Six hours are filled in from the last week back to the second. The row is not in the snapshot
and is fetched before; its first week stays as it was. -/
theorem fill_writes_range_of_fetched_row :
    let first : WeekKey := ⟨"2024-01-01"⟩
    let second : WeekKey := ⟨"2024-01-08"⟩
    let third : WeekKey := ⟨"2024-01-15"⟩
    let i : Invocation := { command := .fillHours {} ⟨7, 42⟩ "2024-01-15" "2024-01-08" "6" }
    let stored := Credentials.ofToken "secret" "http://[::1]"
    let w : Surroundings := { auth? := some ⟨String.ofList stored.text, Credentials.fileMode⟩ }
    let weeks := "[\"2024-01-01\", \"2024-01-08\", \"2024-01-15\"]"
    let snapshot := "\x7b\"week_keys\": " ++ weeks ++ ", \"people\": [\x7b\"id\": 7\x7d]\x7d"
    let row := "\x7b\"id\": 42, \"person\": 7, \"project\": 1\x7d"
    let server : Http.Server :=
      { answers := [some ⟨200, "\x7b\"count\": 1\x7d"⟩, some ⟨200, snapshot⟩,
          some ⟨200, "[" ++ row ++ "]"⟩, some ⟨200, row⟩] }
    let before := (i.lookup w).outcome (w.context i Http.Server.transport.recorded)
      (w.begin ⟨server, []⟩)
    let ended := i.run w Http.Server.transport.recorded ⟨server, []⟩
    before.1 = .ok () ∧
      ∃ (client : Client) (a : Assignment) (hours : Hours) (request : Http.Request)
          (response? : Option Http.Response),
        before.2.grid.roster.find? ⟨7, 42⟩ = some a ∧
        hours[first]? = a.hours[first]? ∧
        hours[second]? = some (Hours.ofTyped w.settings.effectiveCap "6") ∧
        hours[third]? = some (Hours.ofTyped w.settings.effectiveCap "6") ∧
        client.request (hoursAsk ⟨7, 42⟩ hours) = .ok request ∧
        ended.written = [(request, response?)] := by
  intro first second third i stored w weeks snapshot row server before ended
  let axis : WeekAxis := .ofKeys [first, second, third]
  obtain ⟨hok, haxis⟩ : before.1 = .ok () ∧ before.2.grid.axis = axis := by decide +kernel
  have hfirst : axis.position? first = some 0 := by decide +kernel
  have hsecond : axis.position? second = some 1 := by decide +kernel
  have hthird : axis.position? third = some 2 := by decide +kernel
  have hfound : before = (.ok (), before.2) := Prod.mk.eta.symm.trans (congrArg (·, before.2) hok)
  obtain ⟨client, a, start, stop, p, q, -, hstart, hp, hstop, hq, ⟨hheld, hsent⟩, -⟩ :=
    fill_writes_range i w Http.Server.transport server hfound
  rw [haxis] at hstart hp hstop hq hsent
  obtain rfl : third = start := Except.ok.inj ((show readWeek axis "2024-01-15" = .ok third by
    decide +kernel).symm.trans hstart)
  obtain rfl : second = stop := Except.ok.inj ((show readWeek axis "2024-01-08" = .ok second by
    decide +kernel).symm.trans hstop)
  obtain rfl : 2 = p := Option.some.inj (hthird.symm.trans hp)
  obtain rfl : 1 = q := Option.some.inj (hsecond.symm.trans hq)
  obtain ⟨hours, request, response?, hfilled, hkept, hrequest, -, hwritten⟩ := hsent
  refine ⟨hok, client, a, hours, request, response?, hheld, ?_, ?_, ?_, hrequest, hwritten⟩
  · refine hkept first ?_
    rintro ⟨n, hn, hlow, -⟩
    obtain rfl : 0 = n := Option.some.inj (hfirst.symm.trans hn)
    exact absurd hlow (by decide)
  · exact hfilled second ⟨1, hsecond, by decide, by decide⟩
  · exact hfilled third ⟨2, hthird, by decide, by decide⟩

end Cli

end AssignmentGrid
