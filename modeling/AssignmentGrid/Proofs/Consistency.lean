import AssignmentGrid.Proofs.Acquisition
import AssignmentGrid.Proofs.LoadRun
import AssignmentGrid.Proofs.RowServer

/-!
# Consistency with the server

After a successful load, and after every sequence of operations that follow it one by one, the grid
mirrors the server, whatever calls fail and whatever rows of a batch are refused. Specification
`SPEC_FULL.md:46–49,194–195`.
-/

namespace AssignmentGrid

/-! ### Loading -/

namespace Grid

/-- A load that runs to its end shows the snapshot that it has obtained; without one the rows stay
as they are. -/
theorem load_cases {σ : Type} (g : Grid) (b : Backend σ) (request : LoadRequest) (s : σ) :
    (∃ outcome, (Load.acquire g.config b request s).result = .ok outcome ∧
      (g.load b request s).result = .ok () ∧
      (g.load b request s).grid.roster =
        .ofSnapshot outcome.snapshot.people outcome.snapshot.rows) ∨
    (∃ e, (Load.acquire g.config b request s).result = .error e ∧
      (g.load b request s).result = .error e ∧
      (g.load b request s).grid.roster = g.roster) := by
  cases hobtained : (Load.acquire g.config b request s).result with
  | ok outcome =>
    refine .inl ⟨outcome, rfl, ?_⟩
    rw [load_of_ok hobtained]
    exact ⟨rfl, rfl⟩
  | error e =>
    refine .inr ⟨e, rfl, ?_⟩
    rw [load_of_error hobtained]
    exact ⟨rfl, rfl⟩

end Grid

namespace Backend.Keeps

variable {σ : Type} {b : Backend σ} {stored : σ → Stored} {request : LoadRequest}

/-- On the way to a snapshot no rows are changed, and snapshots show them as they are kept. -/
theorem supplies (hb : b.Keeps stored) (kept : Stored) :
    b.Supplies (fun s ↦ stored s = kept) fun snapshot ↦ kept.Shows snapshot.rows where
  fetchSnapshot := by
    rintro weeks scope s rfl
    exact hb.fetchSnapshot weeks scope s
  submitJob := by
    rintro weeks scope s rfl
    exact hb.submitJob weeks scope s
  pollJob := by
    rintro job s rfl
    exact hb.pollJob job s
  countPeople := by
    rintro scope s rfl
    exact hb.countPeople scope s
  runsJobs := by
    rintro s rfl
    exact hb.runsJobs s

/-- Obtaining a snapshot changes no rows, and the snapshot shows them as they are kept. -/
theorem acquire (hb : b.Keeps stored) (config : LoadConfig) (request : LoadRequest) (s : σ) :
    stored (Load.acquire config b request s).backend = stored s ∧
      ∀ outcome, (Load.acquire config b request s).result = .ok outcome →
        (stored s).Shows outcome.snapshot.rows :=
  (hb.supplies (stored s)).acquire config request rfl

/-! ### Operations -/

/-- A load keeps the mirror, whether it succeeds or not. -/
theorem mirrors_load (hb : b.Keeps stored) {g : Grid} {s : σ}
    (h : (∃ u, (g.load b request s).result = .ok u) ∨ g.roster.Mirrors (stored s)) :
    (g.load b request s).grid.roster.Mirrors (stored (g.load b request s).backend) := by
  obtain ⟨hsame, hshows⟩ := hb.acquire g.config request s
  have hbackend : stored (g.load b request s).backend = stored s := hsame
  rw [hbackend]
  rcases g.load_cases b request s with
    ⟨outcome, hobtained, -, hroster⟩ | ⟨e, -, hresult, hroster⟩
  · rw [hroster]
    exact Roster.mirrors_ofSnapshot _ (hshows outcome hobtained)
  · rw [hroster]
    rcases h with ⟨u, hu⟩ | h
    · rw [hresult] at hu
      cases hu
    · exact h

/-- Fetching the rows of a person keeps the mirror. -/
theorem mirrors_refresh (hb : b.Keeps stored) {g : Grid} {s : σ}
    (h : g.roster.Mirrors (stored s)) (p : PersonId) :
    (g.refresh b p s).grid.roster.Mirrors (stored (g.refresh b p s).backend) := by
  obtain ⟨hsame, hrows⟩ := hb.fetchRows p s
  unfold Grid.refresh
  split
  · next rows s' hanswer =>
    rw [hanswer] at hsame hrows
    obtain ⟨hnodup, hmem⟩ := hrows rows rfl
    dsimp only at hsame ⊢
    rw [hsame]
    exact h.replaceRows hnodup hmem
  · next e s' hanswer =>
    rw [hanswer] at hsame
    dsimp only at hsame ⊢
    rw [hsame]
    exact h

/-- Putting a person on a project keeps the mirror. -/
theorem mirrors_assign (hb : b.Keeps stored) {g : Grid} {s : σ}
    (h : g.roster.Mirrors (stored s)) (p : PersonId) (project : ProjectId) :
    (g.assign b p project s).grid.roster.Mirrors
      (stored (g.assign b p project s).backend) := by
  obtain ⟨hok, herror⟩ := hb.createRow p project s
  unfold Grid.assign
  split
  · exact h
  · split
    · next row s' hanswer =>
      rw [hanswer] at hok
      obtain ⟨-, hfresh, hafter⟩ := hok row rfl
      dsimp only at hafter ⊢
      rw [hafter]
      exact h.push hfresh
    · next e s' hanswer =>
      rw [hanswer] at herror
      have hafter := herror e rfl
      dsimp only at hafter ⊢
      rw [hafter]
      exact h

/-- Deleting an assignment keeps the mirror. -/
theorem mirrors_unassign (hb : b.Keeps stored) {g : Grid} {s : σ}
    (h : g.roster.Mirrors (stored s)) (id : AssignmentId) :
    (g.unassign b id s).grid.roster.Mirrors (stored (g.unassign b id s).backend) := by
  obtain ⟨hok, herror⟩ := hb.deleteRow id s
  unfold Grid.unassign
  split
  · exact h
  · split
    · next s' hanswer =>
      rw [hanswer] at hok
      have hafter := hok rfl
      dsimp only at hafter ⊢
      rw [hafter]
      exact h.remove id
    · next e s' hanswer =>
      rw [hanswer] at herror
      have hafter := herror e rfl
      dsimp only at hafter ⊢
      rw [hafter]
      exact h

/-- What either leaves rows and backend alone or is a write keeps the mirror. -/
private theorem mirrors_of_write (hb : b.Keeps stored) {sheet sheet' : Sheet} {s s' : σ}
    (h : sheet.roster.Mirrors (stored s))
    (hwrite : (sheet', s') = (sheet, s) ∨
      ∃ cells value, (sheet', s') = sheet.write b cells value s) :
    sheet'.roster.Mirrors (stored s') := by
  rcases hwrite with hsame | ⟨cells, value, hwrite⟩
  · cases hsame
    exact h
  · have hmirrors := hb.mirrors_write h cells value
    rw [← hwrite] at hmirrors
    exact hmirrors

/-- Every operation keeps the mirror. -/
theorem mirrors_perform (hb : b.Keeps stored) {g : Grid} {s : σ}
    (h : g.roster.Mirrors (stored s)) (o : Operation) :
    (o.perform b g s).1.roster.Mirrors (stored (o.perform b g s).2) := by
  cases o with
  | load request => exact hb.mirrors_load (.inr h)
  | reload => exact hb.mirrors_load (.inr h)
  | setWeeks weeks => exact hb.mirrors_load (.inr h)
  | setScope scope => exact hb.mirrors_load (.inr h)
  | refresh p => exact hb.mirrors_refresh h p
  | expand p =>
    simp only [Operation.perform, Reply.state, Grid.expand]
    split
    · exact h
    · split
      · exact h
      · exact hb.mirrors_refresh h p
  | assign p project => exact hb.mirrors_assign h p project
  | unassign id => exact hb.mirrors_unassign h id
  | apply cells value =>
    exact hb.mirrors_of_write h (.inr ⟨cells, _, g.applyHours_eq_write b cells value s⟩)
  | commit => exact hb.mirrors_of_write h (g.commit_eq_write b s)
  | input i => exact hb.mirrors_of_write h (g.handle_eq_write b i s)

/-- Every sequence of operations keeps the mirror. -/
theorem mirrors_run (hb : b.Keeps stored) (operations : List Operation) {x : Grid × σ}
    (h : x.1.roster.Mirrors (stored x.2)) :
    (Operation.run b operations x).1.roster.Mirrors
      (stored (Operation.run b operations x).2) := by
  induction operations generalizing x with
  | nil => exact h
  | cons o rest ih => exact ih (hb.mirrors_perform h o)

end Backend.Keeps

/-- The grid is consistent with the server: after a successful load and any operations, each run
to its end before the next and each with whatever failures, the held rows are kept rows, each held
once and found under its key, and everyone who is loaded has all the own rows. -/
theorem grid_mirrors_server {σ : Type} {b : Backend σ} {stored : σ → Stored}
    (hb : b.Keeps stored) {g : Grid} {request : LoadRequest} {s : σ}
    (hload : (g.load b request s).result = .ok ()) (operations : List Operation) :
    let final := Operation.run b operations (g.load b request s).state
    let roster := final.1.roster
    (∀ a ∈ roster.assignments, stored final.2 a.id = some a ∧ roster.find? a.row = some a) ∧
    (roster.assignments.map Assignment.id).Nodup ∧
    (∀ p, roster.isLoaded p = true →
      ∀ a, a ∈ roster.rowsFor p ↔ stored final.2 a.id = some a ∧ a.person = p) := by
  intro final roster
  have hmirrors : roster.Mirrors (stored final.2) :=
    hb.mirrors_run operations (hb.mirrors_load (.inl ⟨(), hload⟩))
  refine ⟨?_, hmirrors.nodup_assignments, ?_⟩
  · intro a ha
    obtain ⟨p, hp⟩ := (Roster.mem_assignments_iff _ a).mp ha
    exact ⟨(hmirrors.kept p a hp).1, hmirrors.find?_row hp⟩
  · intro p hloaded a
    constructor
    · exact hmirrors.kept p a
    · rintro ⟨hkept, hp⟩
      exact hmirrors.complete p hloaded a hkept hp

/-- Rows are written in a batch of which one row is refused, another is deleted, and a row is
created. -/
theorem grid_mirrors_server_after_edits :
    let week : WeekKey := ⟨"2024-01-01"⟩
    let server : RowServer :=
      { rows := [{ id := 42, person := 7, project := 3, hours := (∅ : Hours).insert week 8 },
          { id := 43, person := 7, project := 4 }, { id := 44, person := 9, project := 3 }]
        nodup := by decide
        shown := [7]
        locked := [43] }
    let operations : List Operation :=
      [.apply [⟨⟨7, 42⟩, week⟩, ⟨⟨7, 43⟩, week⟩] 4, .refresh 9, .unassign 42, .assign 9 4]
    let start := ({} : Grid).load RowServer.backend {} server
    let final := Operation.run RowServer.backend operations start.state
    start.result = .ok () ∧ final.1.roster.assignments.map Assignment.id = [43, 44, 3] ∧
      ∀ a ∈ final.1.roster.assignments, RowServer.kept final.2 a.id = some a := by
  intro week server operations start final
  have hload : (({} : Grid).load RowServer.backend {} server).result = .ok () := rfl
  refine ⟨hload, by decide +kernel, ?_⟩
  intro a ha
  exact ((grid_mirrors_server RowServer.keeps hload operations).1 a ha).1

end AssignmentGrid
