import AssignmentGrid.Proofs.LoadedTotals

/-!
# Calls that fail

The rows of a person are fetched, a person is put on a project, and an assignment is taken away by
one call of the backend each. Nothing of the grid changes before the backend has agreed, so that a
refused call leaves a notice behind and nothing else. A person who is loaded is not expanded again.
Specification `SPEC_FULL.md:169–170,179–181,246–250`.
-/

namespace AssignmentGrid

variable {σ : Type}

namespace Grid

variable {g : Grid} {p : PersonId}

/-- Whoever is loaded is not expanded again. -/
theorem expand_of_loaded (b : Backend σ) (s : σ) (h : g.roster.isLoaded p = true) :
    g.expand b p s = ⟨.ok false, g, s⟩ := by
  obtain ⟨q, hperson, hloaded⟩ := (Option.any_eq_true _ _).mp h
  simp only [expand, hperson, hloaded, if_true]

/-- To expand a person who is shown and not loaded is to fetch the rows. -/
theorem expand_of_collapsed (b : Backend σ) (s : σ) {q : PersonRow}
    (hperson : g.roster.person? p = some q) (hcollapsed : q.isLoaded = false) :
    g.expand b p s =
      ⟨(g.refresh b p s).result.map fun _ ↦ true, (g.refresh b p s).grid,
        (g.refresh b p s).backend⟩ := by
  simp only [expand, hperson, hcollapsed, Bool.false_eq_true, if_false]

end Grid

/-- An operation that makes one call for rows. -/
inductive RowCall where
  | expand (person : PersonId)
  | refresh (person : PersonId)
  | assign (person : PersonId) (project : ProjectId)
  | unassign (id : AssignmentId)

namespace RowCall

/-- An operation that makes one call, with nothing but whether it failed as its result. -/
def perform (b : Backend σ) (g : Grid) (s : σ) : RowCall → Reply σ (Except GridError Unit)
  | expand p =>
    let reply := g.expand b p s
    ⟨reply.result.map fun _ ↦ (), reply.grid, reply.backend⟩
  | refresh p => g.refresh b p s
  | assign p project =>
    let reply := g.assign b p project s
    ⟨reply.result.map fun _ ↦ (), reply.grid, reply.backend⟩
  | unassign id => g.unassign b id s

/-- What an operation is about and the grid does not hold, as a failure. -/
def unheld? (g : Grid) : RowCall → Option GridError
  | expand p | assign p _ => if (g.roster.person? p).isNone then some (Grid.noPerson p) else none
  | refresh _ => none
  | unassign id => if (g.roster.ownerOf? id).isNone then some (Grid.noAssignment id) else none

/-- The call that an operation makes. -/
def call : RowCall → Call
  | expand p | refresh p => .fetchRows p
  | assign p project => .createRow p project
  | unassign id => .deleteRow id

/-- What the backend answers to the call, without the rows, and its next state. -/
def answer (b : Backend σ) (s : σ) : RowCall → Except BackendError Unit × σ
  | expand p | refresh p => ((b.fetchRows p s).1.map fun _ ↦ (), (b.fetchRows p s).2)
  | assign p project => ((b.createRow p project s).1.map fun _ ↦ (), (b.createRow p project s).2)
  | unassign id => b.deleteRow id s

/-- The failure of an operation when the backend refuses its call. -/
def failure (cause : BackendError) : RowCall → GridError
  | expand _ | refresh _ => .fetch cause
  | assign _ _ | unassign _ => .remoteWrite cause

/-- What the user is told when the backend refuses the call. -/
def complaint (cause : BackendError) : RowCall → String
  | expand _ | refresh _ => s!"Could not load assignments: {cause.message}"
  | assign _ _ => s!"Could not assign project: {cause.message}"
  | unassign _ => s!"Could not remove assignment: {cause.message}"

variable {b : Backend σ} {g : Grid} {s : σ} {e : GridError}

/-- How an operation ends: the grid does not hold what it is about, and nothing happens at all; the
backend refuses the call, and the user is told; or it succeeds. -/
inductive Ends (b : Backend σ) (g : Grid) (s : σ) (c : RowCall) :
    Reply σ (Except GridError Unit) → Prop
  | unheld {e : GridError} (hunheld : c.unheld? g = some e) : Ends b g s c ⟨.error e, g, s⟩
  | refused {cause : BackendError} (hheld : c.unheld? g = none)
      (hanswer : (c.answer b s).1 = .error cause) :
      Ends b g s c
        ⟨.error (c.failure cause), g.complain (c.complaint cause), (c.answer b s).2⟩
  | agreed {reply : Reply σ (Except GridError Unit)} (hresult : reply.result = .ok ()) :
      Ends b g s c reply

namespace Ends

theorem refresh (p : PersonId) : Ends b g s (.refresh p) ((refresh p).perform b g s) := by
  rw [perform]
  cases hanswer : (b.fetchRows p s).1 with
  | ok rows =>
    rw [g.refresh_of_ok hanswer]
    exact .agreed rfl
  | error cause =>
    rw [g.refresh_of_error hanswer]
    exact .refused rfl (congrArg (Except.map fun _ ↦ ()) hanswer)

theorem expand (p : PersonId) : Ends b g s (.expand p) ((expand p).perform b g s) := by
  rw [perform]
  cases hperson : g.roster.person? p with
  | none =>
    rw [Grid.expand, hperson]
    exact .unheld (by rw [unheld?, hperson]; rfl)
  | some q =>
    have hheld : (RowCall.expand p).unheld? g = none := by
      rw [unheld?, hperson]
      rfl
    cases hloaded : q.isLoaded with
    | true =>
      rw [g.expand_of_loaded b s (by rw [Roster.isLoaded, hperson]; exact hloaded)]
      exact .agreed rfl
    | false =>
      rw [g.expand_of_collapsed b s hperson hloaded]
      cases hanswer : (b.fetchRows p s).1 with
      | ok rows =>
        rw [g.refresh_of_ok hanswer]
        exact .agreed rfl
      | error cause =>
        rw [g.refresh_of_error hanswer]
        exact .refused hheld (congrArg (Except.map fun _ ↦ ()) hanswer)

theorem assign (p : PersonId) (project : ProjectId) :
    Ends b g s (.assign p project) ((assign p project).perform b g s) := by
  rw [perform, Grid.assign]
  cases hperson : g.roster.person? p with
  | none => exact .unheld (by rw [unheld?, hperson]; rfl)
  | some q =>
    have hheld : (RowCall.assign p project).unheld? g = none := by
      rw [unheld?, hperson]
      rfl
    rcases hanswer : b.createRow p project s with ⟨cause | row, next⟩
    · have hnext : next = ((RowCall.assign p project).answer b s).2 := by rw [answer, hanswer]
      rw [hnext]
      exact .refused hheld (by rw [answer, hanswer]; rfl)
    · exact .agreed rfl

theorem unassign (id : AssignmentId) :
    Ends b g s (.unassign id) ((unassign id).perform b g s) := by
  rw [perform, Grid.unassign]
  cases howner : g.roster.ownerOf? id with
  | none => exact .unheld (by rw [unheld?, howner]; rfl)
  | some p =>
    have hheld : (RowCall.unassign id).unheld? g = none := by
      rw [unheld?, howner]
      rfl
    rcases hanswer : b.deleteRow id s with ⟨cause | done, next⟩
    · have hnext : next = ((RowCall.unassign id).answer b s).2 := by rw [answer, hanswer]
      rw [hnext]
      exact .refused hheld (by rw [answer, hanswer])
    · exact .agreed rfl

end Ends

/-- Every operation ends in one of the three ways. -/
theorem ends_perform (c : RowCall) (b : Backend σ) (g : Grid) (s : σ) :
    c.Ends b g s (c.perform b g s) := by
  cases c with
  | expand p => exact .expand p
  | refresh p => exact .refresh p
  | assign p project => exact .assign p project
  | unassign id => exact .unassign id

/-- What the grid does not hold is reported as not found. -/
theorem unheld?_eq_notFound (c : RowCall) (h : c.unheld? g = some e) :
    ∃ what, e = .notFound what := by
  cases c with
  | refresh p => cases h
  | _ =>
    obtain ⟨-, hfailure⟩ := Option.ite_none_right_eq_some.mp h
    exact ⟨_, (Option.some.inj hfailure).symm⟩

/-- The log has the call behind those made before. -/
theorem calls_answer (c : RowCall) (b : Backend σ) (s : Logged σ) :
    (c.answer b.logged s).2.calls = s.calls ++ [c.call] := by
  cases c <;> rfl

/-- The log does not change what the backend answers. -/
theorem answer_logged (c : RowCall) (b : Backend σ) (s : Logged σ) :
    (c.answer b.logged s).1 = (c.answer b s.state).1 := by
  cases c <;> rfl

end RowCall

/-! ### Fetching once -/

namespace Action

/-- The person whose rows an action fetches by expanding. -/
def expanded? (b : Backend σ) (g : Grid) (s : σ) : Action → Option PersonId
  | operation (.expand p) => if (g.expand b p s).result = .ok true then some p else none
  | _ => none

/-- The people whose rows a run fetches by expanding, each as often as that is done. -/
def expansions (b : Backend σ) : List Action → Grid × σ → List PersonId
  | [], _ => []
  | a :: rest, x => (a.expanded? b x.1 x.2).toList ++ expansions b rest (a.perform b x.1 x.2)

variable {b : Backend σ} {p : PersonId}

/-- Whoever is expanded was not loaded before, and is from then on. -/
theorem isLoaded_of_expanded? {g : Grid} {s : σ} {a : Action} (h : a.expanded? b g s = some p) :
    g.roster.isLoaded p = false ∧ (a.perform b g s).1.roster.isLoaded p = true := by
  unfold expanded? at h
  split at h
  · next q =>
    obtain ⟨hresult, hsame⟩ := Option.ite_none_right_eq_some.mp h
    obtain rfl := Option.some.inj hsame
    obtain ⟨hcollapsed, rows, -, hgrid⟩ := Grid.expand_eq_ok_true hresult
    refine ⟨hcollapsed, ?_⟩
    have hlater : ((operation (.expand q)).perform b g s).1 = g.takeRows q rows := hgrid
    rw [hlater]
    exact (g.roster.isLoaded_replaceRows q q rows).trans (if_pos rfl)
  · cases h

/-- Until a snapshot is shown, nobody is expanded who was loaded in the beginning, and nobody is
expanded twice. -/
theorem expansions_once {actions : List Action} {x : Grid × σ}
    (hquiet : lastShown? b actions x = none) :
    (expansions b actions x).Nodup ∧
      ∀ p ∈ expansions b actions x, x.1.roster.isLoaded p = false := by
  induction actions generalizing x with
  | nil => exact ⟨List.nodup_nil, nofun⟩
  | cons a rest ih =>
    rw [lastShown?, Option.or_eq_none_iff] at hquiet
    obtain ⟨hrest, hfirst⟩ := hquiet
    obtain ⟨hnodup, hcollapsed⟩ := ih hrest
    -- Who is expanded later is not loaded by then, and so neither before the first action.
    have hbefore (p : PersonId) (hp : p ∈ expansions b rest (a.perform b x.1 x.2)) :
        x.1.roster.isLoaded p = false := by
      rw [← Bool.not_eq_true]
      intro hloaded
      have hlater := (spares_perform hfirst p).loaded hloaded
      rw [hcollapsed p hp] at hlater
      cases hlater
    rw [expansions]
    cases hexpanded : a.expanded? b x.1 x.2 with
    | none => exact ⟨hnodup, hbefore⟩
    | some q =>
      obtain ⟨hq, hlater⟩ := isLoaded_of_expanded? hexpanded
      have hnew : q ∉ expansions b rest (a.perform b x.1 x.2) := by
        intro hmem
        rw [hcollapsed q hmem] at hlater
        cases hlater
      refine ⟨List.nodup_cons.mpr ⟨hnew, hnodup⟩, fun p hp ↦ ?_⟩
      rcases List.mem_cons.mp hp with rfl | hp
      · exact hq
      · exact hbefore p hp

end Action

/-- Failed calls leave the grid alone. Expanding and refreshing a person, putting one on a project
and taking an assignment away fail in two ways. The grid does not hold whom or what they are about:
then nothing happens at all. Or the backend refuses the call: then this was the only call, and the
user is told of it, which is all that is new in the grid. Expanding a person who is loaded makes no
call and changes nothing, so that until another snapshot is shown every person is expanded
successfully once at most, and nobody who was loaded in the beginning. -/
theorem failed_calls_leave_grid (b : Backend σ) (g : Grid) (s : Logged σ) :
    (∀ (c : RowCall) (e : GridError), (c.perform b.logged g s).result = .error e →
      let later := c.perform b.logged g s
      (c.unheld? g = some e ∧ (∃ what, e = .notFound what) ∧ later.grid = g ∧ later.backend = s) ∨
        (c.unheld? g = none ∧ ∃ cause, (c.answer b s.state).1 = .error cause ∧
          e = c.failure cause ∧
          later.grid =
            { g with events := g.events ++ [.notice .error (c.complaint cause)] } ∧
          later.backend.calls = s.calls ++ [c.call])) ∧
    (∀ p, g.roster.isLoaded p = true → g.expand b.logged p s = ⟨.ok false, g, s⟩) ∧
    ∀ actions, Action.lastShown? b.logged actions (g, s) = none →
      (Action.expansions b.logged actions (g, s)).Nodup ∧
        ∀ p ∈ Action.expansions b.logged actions (g, s), g.roster.isLoaded p = false := by
  refine ⟨fun c e h ↦ ?_, fun p ↦ Grid.expand_of_loaded b.logged s,
    fun actions ↦ Action.expansions_once⟩
  dsimp only
  have hends := c.ends_perform b.logged g s
  generalize c.perform b.logged g s = later at h hends
  cases hends with
  | unheld hunheld =>
    obtain rfl := Except.error.inj h
    exact .inl ⟨hunheld, c.unheld?_eq_notFound hunheld, rfl, rfl⟩
  | refused hheld hanswer =>
    obtain rfl := Except.error.inj h
    rw [c.answer_logged] at hanswer
    exact .inr ⟨hheld, _, hanswer, rfl, rfl, c.calls_answer b s⟩
  | agreed hresult =>
    rw [hresult] at h
    cases h

/-- A row is locked and cannot be taken away. The rows of a person are fetched in vain at first,
and afterwards once. -/
theorem failed_calls_leave_grid_with_locked_row :
    let script : Script :=
      { standing? := some
          { weeks := [⟨"2024-01-01"⟩]
            people := [⟨7, "Ada Park"⟩, ⟨9, "Sam Ortiz"⟩, ⟨11, "Lee Moss"⟩]
            rows := [{ id := 42, person := 7, project := 1 }] }
        details := [.error (.network "unreachable")]
        locked := [42] }
    let backend := Script.backend.logged
    let start := Action.run backend [.operation (.load {})] ({}, ⟨script, []⟩)
    let removal := start.1.unassign backend 42 start.2
    let actions : List Action :=
      [.operation (.expand 9), .operation (.expand 9), .operation (.expand 11),
        .operation (.expand 9)]
    removal.grid = { start.1 with events := start.1.events ++
      [.notice .error "Could not remove assignment: HTTP 500: delete failed"] } ∧
      removal.backend.calls = start.2.calls ++ [.deleteRow 42] ∧
      (start.1.unassign backend 99 start.2).grid = start.1 ∧
      start.1.expand backend 7 start.2 = ⟨.ok false, start.1, start.2⟩ ∧
      Action.expansions backend actions start = [9, 11] ∧
      (Action.expansions backend actions start).Nodup := by
  intro script backend start removal actions
  obtain ⟨hfailed, hloaded, honce⟩ := failed_calls_leave_grid Script.backend start.1 start.2
  have hquiet : Action.lastShown? backend actions start = none :=
    Option.isNone_iff_eq_none.mp (by decide +kernel)
  obtain ⟨hgrid, hcalls⟩ : removal.grid = { start.1 with events := start.1.events ++
      [.notice .error (RowCall.complaint (.http 500 "delete failed") (.unassign 42))] } ∧
      removal.backend.calls = start.2.calls ++ [.deleteRow 42] := by
    rcases hfailed (.unassign 42) (.remoteWrite (.http 500 "delete failed")) (by decide +kernel)
      with ⟨-, ⟨what, h⟩, -⟩ | ⟨-, cause, -, hcause, hgrid, hcalls⟩
    · cases h
    · obtain rfl := GridError.remoteWrite.inj hcause
      exact ⟨hgrid, hcalls⟩
  have hmessage : RowCall.complaint (.http 500 "delete failed") (.unassign 42) =
      "Could not remove assignment: HTTP 500: delete failed" := by decide +kernel
  rw [hmessage] at hgrid
  refine ⟨hgrid, hcalls, ?_, hloaded 7 (by decide +kernel), by decide +kernel,
    (honce actions hquiet).1⟩
  rcases hfailed (.unassign 99) (.notFound "assignment 99") (by decide +kernel)
    with ⟨-, -, hsame, -⟩ | ⟨-, cause, -, hcause, -⟩
  · exact hsame
  · cases hcause

end AssignmentGrid
