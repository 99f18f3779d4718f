import AssignmentGrid.Proofs.ExactTotals
import AssignmentGrid.Proofs.LoadRun
import AssignmentGrid.Proofs.WriteEnd

/-!
# What an action does to the rows

Of all that can happen to a grid little touches its people and their rows: a load shows a snapshot,
the rows of a person are fetched, a row is created or taken away, and a write changes hours.
Whatever holds of the rows through these five holds of them through every action.
-/

namespace AssignmentGrid

variable {σ : Type} {b : Backend σ} {g : Grid} {s : σ}

/-- The rosters to which an action can lead. -/
inductive Action.LeadsTo (b : Backend σ) (g : Grid) (s : σ) : Action → Roster → Prop
  /-- Hours are changed, or nothing. -/
  | revised (a : Action) (f : RowKey → Hours → Hours) : LeadsTo b g s a (g.roster.revise f)
  /-- A snapshot is shown. -/
  | loaded {a : Action} (hfetches : a.fetches = true) (snapshot : Snapshot) :
      LeadsTo b g s a (.ofSnapshot snapshot.people snapshot.rows)
  /-- The rows of a person are fetched. -/
  | fetched {a : Action} (hfetches : a.fetches = true) {p : PersonId} {rows : List Assignment}
      (hanswer : (b.fetchRows p s).1 = .ok rows) : LeadsTo b g s a (g.roster.replaceRows p rows)
  /-- A row is created for somebody known. -/
  | created {p : PersonId} {project : ProjectId} {row : Assignment}
      (hknown : (g.roster.person? p).isSome = true)
      (hanswer : (b.createRow p project s).1 = .ok row) :
      LeadsTo b g s (.operation (.assign p project)) (g.roster.push row)
  /-- A row is taken away. -/
  | removed (id : AssignmentId) :
      LeadsTo b g s (.operation (.unassign id)) (g.roster.remove id).2

namespace Action.LeadsTo

variable {a : Action}

theorem same (a : Action) : a.LeadsTo b g s g.roster := by
  have h : a.LeadsTo b g s (g.roster.revise fun _ h ↦ h) := revised a _
  rwa [Roster.revise_id] at h

theorem of_sheet {later : Grid} (h : later.sheet = g.sheet) : a.LeadsTo b g s later.roster := by
  rw [show later.roster = g.roster from congrArg Sheet.roster h]
  exact same a

/-- A write changes hours when it is prepared and when it is settled. -/
theorem write (a : Action) (cells : List Cell) (value : Float) :
    a.LeadsTo b g s (g.sheet.write b cells value s).1.roster := by
  rw [Sheet.roster_write]
  exact revised a _

theorem of_write {later : Grid} {s' : σ}
    (h : (later.sheet, s') = (g.sheet, s) ∨
      ∃ cells value, (later.sheet, s') = g.sheet.write b cells value s) :
    a.LeadsTo b g s later.roster := by
  rcases h with h | ⟨cells, value, h⟩
  · exact of_sheet (Prod.mk.inj h).1
  · have hsheet : later.sheet = (g.sheet.write b cells value s).1 := congrArg Prod.fst h
    rw [show later.roster = _ from congrArg Sheet.roster hsheet]
    exact write a cells value

/-! ### Pieces -/

theorem recordProgress (ticket : LoadTicket) (job : JobProgress) :
    a.LeadsTo b g s (g.recordProgress ticket job).roster := by
  by_cases hcurrent : ticket.generation = g.generation
  · rw [Grid.recordProgress_of_eq hcurrent]
    exact same a
  · rw [Grid.recordProgress_of_ne hcurrent]
    exact same a

theorem finishLoad (ha : a.fetches = true) (ticket : LoadTicket)
    (obtained : Except GridError LoadOutcome) :
    a.LeadsTo b g s (g.finishLoad ticket obtained).2.roster := by
  by_cases hcurrent : ticket.generation = g.generation
  · cases obtained with
    | ok outcome =>
      rw [Grid.finishLoad_ok_of_eq hcurrent]
      exact loaded ha outcome.snapshot
    | error e =>
      rw [Grid.finishLoad_error_of_eq hcurrent]
      exact same a
  · rw [Grid.finishLoad_of_ne hcurrent]
    exact same a

/-! ### Operations -/

theorem load (ha : a.fetches = true) (request : LoadRequest) :
    a.LeadsTo b g s (g.load b request s).grid.roster := by
  cases hobtained : (Load.acquire g.config b request s).result with
  | ok outcome =>
    rw [Grid.load_of_ok hobtained]
    exact loaded ha outcome.snapshot
  | error e =>
    rw [Grid.load_of_error hobtained]
    exact same a

theorem refresh (ha : a.fetches = true) (p : PersonId) :
    a.LeadsTo b g s (g.refresh b p s).grid.roster := by
  unfold Grid.refresh
  split
  · next rows _ hanswer => exact fetched ha (congrArg Prod.fst hanswer)
  · exact same a

theorem expand (ha : a.fetches = true) (p : PersonId) :
    a.LeadsTo b g s (g.expand b p s).grid.roster := by
  unfold Grid.expand
  split
  · exact same a
  · split
    · exact same a
    · exact refresh ha p

theorem assign (p : PersonId) (project : ProjectId) :
    LeadsTo b g s (.operation (.assign p project)) (g.assign b p project s).grid.roster := by
  unfold Grid.assign
  split
  · exact same _
  · next q hq =>
    split
    · next row _ hanswer => exact created (by rw [hq]; rfl) (congrArg Prod.fst hanswer)
    · exact same _

theorem unassign (id : AssignmentId) :
    LeadsTo b g s (.operation (.unassign id)) (g.unassign b id s).grid.roster := by
  unfold Grid.unassign
  split
  · exact same _
  · split
    · exact removed id
    · exact same _

/-- Every action leads to one of the rosters to which it can lead. -/
theorem perform (a : Action) (b : Backend σ) (g : Grid) (s : σ) :
    a.LeadsTo b g s (a.perform b g s).1.roster := by
  cases a with
  | gesture m => exact of_sheet (g.sheet_gesture m)
  | piece x =>
    cases x with
    | beginLoad request => exact same _
    | progress ticket job => exact recordProgress ticket job
    | finishLoad ticket obtained => exact finishLoad rfl ticket obtained
    | prepare cells value =>
      rw [show (Action.perform b g s (.piece (.prepare cells value))).1.roster = _ from
        g.sheet.roster_prepare cells (Hours.clamp g.hoursCap value)]
      exact revised _ _
    | settle w =>
      rw [show (Action.perform b g s (.piece (.settle w))).1.roster = _ from
        w.roster_settle g.sheet]
      exact revised _ _
  | operation o =>
    cases o with
    | load request => exact load rfl request
    | reload => exact load rfl g.request
    | setWeeks weeks => exact load rfl { g.request with weeks }
    | setScope scope => exact load rfl { g.request with scope }
    | expand p => exact expand rfl p
    | refresh p => exact refresh rfl p
    | assign p project => exact assign p project
    | unassign id => exact unassign id
    | apply cells value => exact of_write (.inr ⟨cells, _, g.applyHours_eq_write b cells value s⟩)
    | commit => exact of_write (g.commit_eq_write b s)
    | input i => exact of_write (g.handle_eq_write b i s)

end Action.LeadsTo

end AssignmentGrid
