import AssignmentGrid.Proofs.Acquisition
import AssignmentGrid.Proofs.Doubles
import AssignmentGrid.Proofs.HeldRows
import AssignmentGrid.Proofs.LoadRun
import AssignmentGrid.Proofs.WriteOutcome

/-!
# Hours within bounds

Whatever is typed or sent for a cell is brought between zero and the cap. From there hours go into
rows, into plans, into requests and back, and each of these steps hands on whole rows. If all hours
that the backend delivers are within the bounds, no step leads out of them. Specification
`SPEC_FULL.md:63–65,113–114`.
-/

namespace AssignmentGrid

/-! ### Hours -/

/-- Whether a number is one that a cell may hold: finite, not below zero and not above the cap. -/
structure Hours.InBounds (cap value : Float) : Prop where
  finite : value.isFinite = true
  nonneg : 0 ≤ value
  le_cap : value ≤ cap

/-- Every number, infinite ones and what is no number included, is brought into the bounds. -/
theorem Hours.inBounds_clamp {cap : Float} (hfinite : cap.isFinite = true) (hpos : 0 < cap)
    (value : Float) : InBounds cap (clamp cap value) := by
  have hzero : (0 : Float).isFinite = true := rfl
  unfold clamp
  by_cases hbad : (!value.isFinite || value < 0) = true
  · rw [if_pos hbad]
    exact ⟨hzero, float_le_of_not_lt hzero hzero (float_lt_irrefl 0), float_le_of_lt hpos⟩
  · rw [if_neg hbad]
    simp only [Bool.or_eq_true, Bool.not_eq_true', not_or, Bool.not_eq_false,
      decide_eq_true_eq] at hbad
    obtain ⟨hvalue, hnonneg⟩ := hbad
    by_cases hlt : cap < value
    · rw [if_pos hlt]
      exact ⟨hfinite, float_le_of_lt hpos, float_le_of_not_lt hfinite hfinite (float_lt_irrefl cap)⟩
    · rw [if_neg hlt]
      exact ⟨hvalue, float_le_of_not_lt hzero hvalue hnonneg, float_le_of_not_lt hvalue hfinite hlt⟩

/-- A number within the bounds is left as it is. -/
theorem Hours.clamp_of_inBounds {cap value : Float} (h : InBounds cap value) :
    clamp cap value = value := by
  have hbad : ¬ (!value.isFinite || value < 0) = true := by
    simp [h.finite, float_not_lt_of_le h.nonneg]
  unfold clamp
  rw [if_neg hbad, if_neg (float_not_lt_of_le h.le_cap)]

/-- The same number is within the same bounds. -/
theorem Hours.InBounds.congr {cap value other : Float} (h : InBounds cap value)
    (hother : SameNumber other value) : InBounds cap other where
  finite := hother.isFinite_eq.trans h.finite
  nonneg := (hother.ge_iff 0).mpr h.nonneg
  le_cap := (hother.le_iff cap).mpr h.le_cap

/-- Whether all hours of a row are within the bounds. -/
def Hours.Within (cap : Float) (h : Hours) : Prop :=
  ∀ (week : WeekKey) value, h[week]? = some value → Hours.InBounds cap value

/-- Whether a row's part of a write, with what was there before, is within the bounds. -/
structure RowPlan.Within (cap : Float) (p : RowPlan) : Prop where
  former : ∀ week value, (week, some value) ∈ p.former → Hours.InBounds cap value
  hours : p.hours.Within cap

/-- Whether a write is within the bounds. -/
def PreparedWrite.Within (cap : Float) (w : PreparedWrite) : Prop := ∀ p ∈ w.plans, p.Within cap

/-- Whether a row that came back is within the bounds. -/
def RowOutcome.Within (cap : Float) (outcome : RowOutcome) : Prop :=
  ∀ stored, outcome = .committed (some stored) → stored.hours.Within cap

/-- Whether a write that was sent is within the bounds, with all that came back. -/
structure SentWrite.Within (cap : Float) (w : SentWrite) : Prop where
  prepared : w.prepared.Within cap
  outcomes : ∀ outcome ∈ w.outcomes, outcome.Within cap

/-- Whether all hours in a call are within the bounds. -/
def Call.Within (cap : Float) : Call → Prop
  | updateHours _ hours => hours.Within cap
  | updateMany updates => ∀ u ∈ updates, u.hours.Within cap
  | _ => True

/-- Whether all hours in a snapshot are within the bounds. -/
def Snapshot.Within (cap : Float) (s : Snapshot) : Prop := ∀ a ∈ s.rows, a.hours.Within cap

/-- A backend that delivers hours within the bounds as long as it is in some of its states, which
it does not leave while it is asked for hours within the bounds. -/
structure Backend.DeliversWithin {σ : Type} (b : Backend σ) (cap : Float) (I : σ → Prop) :
    Prop where
  supplies : b.Supplies I (Snapshot.Within cap)
  fetchRows : ∀ p s, I s → I (b.fetchRows p s).2 ∧
    ∀ rows, (b.fetchRows p s).1 = .ok rows → ∀ a ∈ rows, a.hours.Within cap
  createRow : ∀ p project s, I s → I (b.createRow p project s).2 ∧
    ∀ row, (b.createRow p project s).1 = .ok row → row.hours.Within cap
  deleteRow : ∀ id s, I s → I (b.deleteRow id s).2
  updateHours : ∀ id hours s, I s → hours.Within cap → I (b.updateHours id hours s).2 ∧
    ∀ row, (b.updateHours id hours s).1 = .ok row → row.hours.Within cap
  updateMany : ∀ updates s, I s → (∀ u ∈ updates, u.hours.Within cap) →
    I (b.updateMany updates s).2

/-- A logging backend is in one of the states, and all hours in the calls so far are within the
bounds. -/
structure Logged.Within {σ : Type} (cap : Float) (I : σ → Prop) (s : Logged σ) : Prop where
  state : I s.state
  calls : ∀ c ∈ s.calls, c.Within cap

/-- The settings of a grid and its rows: the cap is as given, and all hours are within it. -/
structure Grid.Within (cap : Float) (g : Grid) : Prop where
  hoursCap : g.hoursCap = cap
  rows : g.roster.AllRows fun _ a ↦ a.hours.Within cap

variable {cap : Float}

namespace Hours.Within

variable {h : Hours}

theorem fill (hh : h.Within cap) {value : Float} (hvalue : InBounds cap value)
    (weeks : List WeekKey) : (h.fill weeks value).Within cap := by
  intro week entry hentry
  rw [getElem?_fill] at hentry
  split at hentry
  · cases hentry
    exact hvalue
  · exact hh week entry hentry

theorem put (hh : h.Within cap) {week : WeekKey} {value? : Option Float}
    (hvalue : ∀ value, value? = some value → InBounds cap value) :
    (h.put week value?).Within cap := by
  intro other entry hentry
  rw [getElem?_put] at hentry
  split at hentry
  · exact hvalue entry hentry
  · exact hh other entry hentry

end Hours.Within

/-- Settling puts former hours back or takes stored ones over. -/
theorem RowPlan.Within.settleHours {p : RowPlan} (hp : p.Within cap) {outcome : RowOutcome}
    (houtcome : outcome.Within cap) {h : Hours} (hh : h.Within cap) :
    (p.settleHours outcome h).Within cap := by
  unfold RowPlan.settleHours
  split
  · next stored =>
    intro week entry hentry
    rw [getElem?_adopt] at hentry
    split at hentry
    · exact houtcome stored rfl week entry hentry
    · exact hh week entry hentry
  · exact hh
  · refine List.foldlRecOn p.former _ hh ?_
    rintro h hh ⟨week, value?⟩ he
    apply hh.put
    rintro value rfl
    exact hp.former week value he

/-! ### Writes -/

namespace Sheet

variable {sheet : Sheet}

/-- Plans take their hours from held rows and from the value. -/
theorem within_prepare (h : sheet.roster.AllRows fun _ a ↦ a.hours.Within cap) {value : Float}
    (hvalue : Hours.InBounds cap value) (cells : List Cell) :
    (sheet.prepare cells value).1.Within cap := by
  intro p hp
  obtain ⟨a, -, ha, hplan⟩ := (mem_plans_prepare sheet cells value p).mp hp
  have hmem := List.mem_of_find?_eq_some ((Roster.find?_eq_some_iff _ _ _).mp ha).2
  have hrow : a.hours.Within cap := h p.row.person a hmem
  rw [hplan]
  constructor
  · intro week entry hentry
    obtain ⟨other, -, heq⟩ := List.mem_map.mp hentry
    obtain ⟨rfl, hformer⟩ := Prod.mk.inj heq
    exact hrow other entry hformer
  · exact hrow.fill hvalue _

/-- Preparing puts the hours of the plans into the rows. -/
theorem allRows_prepare (h : sheet.roster.AllRows fun _ a ↦ a.hours.Within cap) {value : Float}
    (hvalue : Hours.InBounds cap value) (cells : List Cell) :
    (sheet.prepare cells value).2.roster.AllRows fun _ a ↦ a.hours.Within cap := by
  rw [roster_prepare]
  apply h.revise
  intro p a ha
  have hplans := within_prepare h hvalue cells
  refine List.foldlRecOn _ _ ha ?_
  intro _ _ plan hplan
  exact (hplans plan (List.mem_of_mem_filter hplan)).hours

end Sheet

namespace SentWrite

/-- Settling leads to no hours but those of the plans, of rows that came back and of the rows. -/
theorem allRows_settle {w : SentWrite} (hw : w.Within cap) {sheet : Sheet}
    (h : sheet.roster.AllRows fun _ a ↦ a.hours.Within cap) :
    (w.settle sheet).roster.AllRows fun _ a ↦ a.hours.Within cap := by
  rw [roster_settle]
  apply h.revise
  intro p a ha
  refine List.foldlRecOn _ _ ha ?_
  rintro h hh ⟨plan, outcome⟩ he
  have hzip := List.of_mem_zip (List.mem_of_mem_filter he)
  exact (hw.prepared plan hzip.1).settleHours (hw.outcomes outcome hzip.2) hh

end SentWrite

variable {σ : Type} {b : Backend σ} {I : σ → Prop} {s : Logged σ}

/-- A call within the bounds keeps the log within them. -/
theorem Logged.Within.call {α : Type} (hs : s.Within cap I) {c : Call} (hc : c.Within cap)
    {f : σ → α × σ} (hf : I (f s.state).2) : (s.call c f).2.Within cap I := by
  refine ⟨hf, ?_⟩
  intro other hother
  rcases List.mem_append.mp hother with hother | hother
  · exact hs.calls other hother
  · rw [List.mem_singleton.mp hother]
    exact hc

namespace Backend.DeliversWithin

/-- No call on the way to a snapshot carries hours. -/
theorem supplies_logged (hb : b.DeliversWithin cap I) :
    b.logged.Supplies (Logged.Within cap I) (Snapshot.Within cap) where
  fetchSnapshot weeks scope s hs := by
    have hanswer := hb.supplies.fetchSnapshot weeks scope s.state hs.state
    exact ⟨hs.call (c := .fetchSnapshot weeks scope) trivial hanswer.1, hanswer.2⟩
  submitJob weeks scope s hs :=
    hs.call (c := .submitJob weeks scope) trivial
      (hb.supplies.submitJob weeks scope s.state hs.state)
  pollJob job s hs := by
    have hanswer := hb.supplies.pollJob job s.state hs.state
    exact ⟨hs.call (c := .pollJob job) trivial hanswer.1, hanswer.2⟩
  countPeople scope s hs :=
    hs.call (c := .countPeople scope) trivial (hb.supplies.countPeople scope s.state hs.state)
  runsJobs s hs := hs.call (c := .runsJobs) trivial (hb.supplies.runsJobs s.state hs.state)

/-- The log of a backend that delivers within the bounds stays within them, and so does what it
delivers. -/
theorem logged (hb : b.DeliversWithin cap I) :
    b.logged.DeliversWithin cap (Logged.Within cap I) where
  supplies := hb.supplies_logged
  fetchRows p s hs := by
    have hanswer := hb.fetchRows p s.state hs.state
    exact ⟨hs.call (c := .fetchRows p) trivial hanswer.1, hanswer.2⟩
  createRow p project s hs := by
    have hanswer := hb.createRow p project s.state hs.state
    exact ⟨hs.call (c := .createRow p project) trivial hanswer.1, hanswer.2⟩
  deleteRow id s hs := hs.call (c := .deleteRow id) trivial (hb.deleteRow id s.state hs.state)
  updateHours id hours s hs hhours := by
    have hanswer := hb.updateHours id hours s.state hs.state hhours
    exact ⟨hs.call (c := .updateHours id hours) hhours hanswer.1, hanswer.2⟩
  updateMany updates s hs hupdates :=
    hs.call (c := .updateMany updates) hupdates (hb.updateMany updates s.state hs.state hupdates)

end Backend.DeliversWithin

variable {s : σ}

/-- A write within the bounds is sent within them, and what comes back is within them. -/
theorem PreparedWrite.Within.send (hb : b.DeliversWithin cap I) {w : PreparedWrite}
    (hw : w.Within cap) (hs : I s) : (w.send b s).1.Within cap ∧ I (w.send b s).2 := by
  match hplans : w.plans with
  | [] =>
    rw [send_of_nil _ _ _ hplans]
    exact ⟨⟨hw, nofun⟩, hs⟩
  | [p] =>
    have hp : p.Within cap := hw p (by rw [hplans]; exact List.mem_singleton_self p)
    have hanswer := hb.updateHours p.row.assignment p.hours s hs hp.hours
    rw [send_of_single _ _ _ hplans]
    refine ⟨⟨hw, ?_⟩, hanswer.1⟩
    intro outcome houtcome stored hstored
    rw [List.mem_singleton.mp houtcome] at hstored
    unfold outcomeAlone at hstored
    split at hstored
    · next row hrow =>
      cases hstored
      exact hanswer.2 _ hrow
    · cases hstored
  | first :: second :: rest =>
    have hmany : 2 ≤ w.plans.length := by simp [hplans]
    have hupdates : ∀ u ∈ w.updates, u.hours.Within cap := by
      intro u hu
      obtain ⟨p, hp, rfl⟩ := List.mem_map.mp hu
      exact (hw p hp).hours
    rw [send_of_batch _ _ _ hmany]
    refine ⟨⟨hw, ?_⟩, hb.updateMany w.updates s hs hupdates⟩
    intro outcome houtcome stored hstored
    obtain ⟨p, -, rfl⟩ := List.mem_map.mp houtcome
    unfold outcomeInBatch outcomeIn at hstored
    split at hstored
    · split at hstored
      · split at hstored
        · cases hstored
        · cases hstored
      · cases hstored
    · cases hstored

/-! ### Operations -/

/-- Whether the grid is within the bounds after an operation and the backend in one of its
states. -/
def Reply.Within {α : Type} (cap : Float) (I : σ → Prop) (r : Reply σ α) : Prop :=
  r.grid.Within cap ∧ I r.backend

namespace Grid.Within

variable {g : Grid}

/-- Where rows and cap stay, so do the bounds. -/
theorem of_eq (h : g.Within cap) {later : Grid} (hsheet : later.sheet = g.sheet)
    (hcap : later.hoursCap = g.hoursCap) : later.Within cap := by
  refine ⟨hcap.trans h.hoursCap, ?_⟩
  rw [roster, hsheet]
  exact h.rows

theorem gesture (h : g.Within cap) (m : Gesture) : (m.perform g).Within cap := by
  obtain ⟨_, _, _, _, hgesture⟩ := g.exists_gesture m
  rw [hgesture]
  exact h.of_eq rfl rfl

theorem recordProgress (h : g.Within cap) (ticket : LoadTicket) (job : JobProgress) :
    (g.recordProgress ticket job).Within cap := by
  unfold Grid.recordProgress
  split
  · exact ⟨h.hoursCap, h.rows⟩
  · exact h

theorem finishLoad (h : g.Within cap) (ticket : LoadTicket)
    {obtained : Except GridError LoadOutcome}
    (hobtained : ∀ outcome, obtained = .ok outcome → outcome.snapshot.Within cap) :
    (g.finishLoad ticket obtained).2.Within cap := by
  by_cases hcurrent : ticket.generation = g.generation
  · cases obtained with
    | ok outcome =>
      rw [finishLoad_ok_of_eq hcurrent]
      exact ⟨h.hoursCap, .ofSnapshot _ (hobtained outcome rfl)⟩
    | error e =>
      rw [finishLoad_error_of_eq hcurrent]
      exact ⟨h.hoursCap, h.rows⟩
  · rw [finishLoad_of_ne hcurrent]
    exact h

variable (hfinite : cap.isFinite = true) (hpos : 0 < cap)
include hfinite hpos

/-- What is written is brought into the bounds of the grid first. -/
theorem prepareHours (h : g.Within cap) (cells : List Cell) (value : Float) :
    (g.prepareHours cells value).1.Within cap ∧ (g.prepareHours cells value).2.Within cap := by
  have hvalue : Hours.InBounds cap (Hours.clamp g.hoursCap value) := by
    rw [h.hoursCap]
    exact Hours.inBounds_clamp hfinite hpos value
  exact ⟨Sheet.within_prepare h.rows hvalue cells, h.hoursCap,
    Sheet.allRows_prepare h.rows hvalue cells⟩

omit hfinite hpos in
theorem settleHours (h : g.Within cap) {w : SentWrite} (hw : w.Within cap) :
    (g.settleHours w).2.Within cap :=
  ⟨h.hoursCap, w.allRows_settle hw h.rows⟩

variable (hb : b.DeliversWithin cap I) (hs : I s)
include hb hs

theorem applyHours (h : g.Within cap) (cells : List Cell) (value : Float) :
    (g.applyHours b cells value s).Within cap I := by
  obtain ⟨hplans, hprepared⟩ := h.prepareHours hfinite hpos cells value
  obtain ⟨hsent, hbackend⟩ := hplans.send hb hs
  unfold Grid.applyHours
  dsimp only
  split
  · exact ⟨hprepared, hs⟩
  · exact ⟨hprepared.settleHours hsent, hbackend⟩

theorem commit (h : g.Within cap) : (g.commit b s).Within cap I := by
  unfold Grid.commit
  split
  · exact ⟨h, hs⟩
  · next edit _ =>
    dsimp only
    have hclosed : g.cancelEdit.Within cap := ⟨h.hoursCap, h.rows⟩
    split
    · exact ⟨⟨h.hoursCap, h.rows⟩, hs⟩
    · next cells _ =>
      obtain ⟨hgrid, hbackend⟩ := hclosed.applyHours hfinite hpos hb hs cells
        (Hours.ofTyped g.hoursCap edit.raw)
      refine ⟨?_, hbackend⟩
      split
      · exact ⟨hgrid.hoursCap, hgrid.rows⟩
      · exact hgrid

theorem handle (h : g.Within cap) (i : Input) : (g.handle b i s).Within cap I := by
  cases i with
  | click cell => exact ⟨h.gesture (.select cell false), hs⟩
  | shiftClick cell => exact ⟨h.gesture (.select cell true), hs⟩
  | mouseDown cell => exact ⟨h.gesture (.beginDrag cell), hs⟩
  | mouseEnter cell => exact ⟨h.gesture (.dragTo cell), hs⟩
  | mouseUp => exact ⟨h.gesture .endDrag, hs⟩
  | doubleClick cell => exact ⟨(h.gesture (.select cell false)).gesture .startEdit, hs⟩
  | blur => exact h.commit hfinite hpos hb hs
  | key key =>
    unfold Grid.handle handleKey
    dsimp only
    split
    · cases key with
      | char c => exact ⟨⟨h.hoursCap, h.rows⟩, hs⟩
      | backspace => exact ⟨⟨h.hoursCap, h.rows⟩, hs⟩
      | enter => exact h.commit hfinite hpos hb hs
      | escape => exact ⟨h.gesture .cancelEdit, hs⟩
      | arrow d shift => exact ⟨h, hs⟩
    · refine ⟨?_, hs⟩
      unfold selectionKey
      split
      · split
        · exact h.gesture (.startTyped _)
        · exact h
      · exact h
      · exact h.gesture .startEdit
      · exact h.gesture .clearSelection
      · next d shift =>
        unfold arrow
        split
        · exact h.gesture (.moveWeeks d.delta)
        · exact h.gesture (.extendWeeks d.delta)
        · exact h.gesture (.moveRows d.delta)
        · exact h

omit hfinite hpos in
theorem refresh (h : g.Within cap) (p : PersonId) : (g.refresh b p s).Within cap I := by
  have hfetch := hb.fetchRows p s hs
  unfold Grid.refresh
  split
  · next rows s' hanswer =>
    rw [hanswer] at hfetch
    exact ⟨⟨h.hoursCap, h.rows.replaceRows (hfetch.2 rows rfl)⟩, hfetch.1⟩
  · next e s' hanswer =>
    rw [hanswer] at hfetch
    exact ⟨⟨h.hoursCap, h.rows⟩, hfetch.1⟩

omit hfinite hpos in
theorem expand (h : g.Within cap) (p : PersonId) : (g.expand b p s).Within cap I := by
  unfold Grid.expand
  split
  · exact ⟨h, hs⟩
  · split
    · exact ⟨h, hs⟩
    · exact h.refresh hb hs p

omit hfinite hpos in
theorem assign (h : g.Within cap) (p : PersonId) (project : ProjectId) :
    (g.assign b p project s).Within cap I := by
  have hcreate := hb.createRow p project s hs
  unfold Grid.assign
  split
  · exact ⟨h, hs⟩
  · split
    · next row s' hanswer =>
      rw [hanswer] at hcreate
      exact ⟨⟨h.hoursCap, h.rows.push (hcreate.2 row rfl)⟩, hcreate.1⟩
    · next e s' hanswer =>
      rw [hanswer] at hcreate
      exact ⟨⟨h.hoursCap, h.rows⟩, hcreate.1⟩

omit hfinite hpos in
theorem unassign (h : g.Within cap) (id : AssignmentId) :
    (g.unassign b id s).Within cap I := by
  have hdelete := hb.deleteRow id s hs
  unfold Grid.unassign
  split
  · exact ⟨h, hs⟩
  · split
    · next s' hanswer =>
      rw [hanswer] at hdelete
      exact ⟨⟨h.hoursCap, h.rows.remove id⟩, hdelete⟩
    · next e s' hanswer =>
      rw [hanswer] at hdelete
      exact ⟨⟨h.hoursCap, h.rows⟩, hdelete⟩

omit hfinite hpos in
theorem load (h : g.Within cap) (request : LoadRequest) :
    (g.load b request s).Within cap I := by
  have hnoted (ticket : LoadTicket) (jobs : List JobProgress) {g : Grid} (h : g.Within cap) :
      (jobs.foldl (fun g job ↦ g.recordProgress ticket job) g).Within cap :=
    List.foldlRecOn jobs _ h fun _ hnext job _ ↦ hnext.recordProgress ticket job
  have hbegun : (g.beginLoad request).2.Within cap := ⟨h.hoursCap, h.rows⟩
  obtain ⟨hbackend, hobtained⟩ := hb.supplies.acquire g.config request hs
  exact ⟨(hnoted _ _ hbegun).finishLoad _ hobtained, hbackend⟩

/-- No operation leads out of the bounds, in the grid or in a request. -/
theorem operation (h : g.Within cap) (o : Operation) :
    (o.perform b g s).1.Within cap ∧ I (o.perform b g s).2 := by
  cases o with
  | load request => exact h.load hb hs request
  | reload => exact h.load hb hs g.request
  | setWeeks weeks => exact h.load hb hs { g.request with weeks }
  | setScope scope => exact h.load hb hs { g.request with scope }
  | expand p => exact h.expand hb hs p
  | refresh p => exact h.refresh hb hs p
  | assign p project => exact h.assign hb hs p project
  | unassign id => exact h.unassign hb hs id
  | apply cells value => exact h.applyHours hfinite hpos hb hs cells value
  | commit => exact h.commit hfinite hpos hb hs
  | input i => exact h.handle hfinite hpos hb hs i

end Grid.Within

end AssignmentGrid
