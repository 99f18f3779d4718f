import AssignmentGrid.Proofs.LoadRun

/-!
# Reachable grids

Whatever happens to a new grid, and with whatever backends, its selection keeps to the shapes that
clicks, drags and arrow keys lead to on the axis by then: a load that replaces the axis leaves
nothing selected.
-/

namespace AssignmentGrid

namespace Grid

/-- The grids to which actions lead from a new one, each of them with some backend. -/
inductive Reachable : Grid → Prop
  | new (config : LoadConfig) (hoursCap : Float) : Reachable { config, hoursCap }
  | perform {g : Grid} {σ : Type} (b : Backend σ) (s : σ) (a : Action) (h : Reachable g) :
      Reachable (a.perform b g s).1

theorem Reachable.run {g : Grid} {σ : Type} (b : Backend σ) (h : g.Reachable)
    (actions : List Action) (s : σ) : (Action.run b actions (g, s)).1.Reachable := by
  induction actions generalizing g s with
  | nil => exact h
  | cons a rest ih => exact ih (.perform b s a h) _

/-- The selection has one of the shapes that there are on the axis. -/
def IsCoherent (g : Grid) : Prop := g.selection.Coherent g.axis

variable {g : Grid}

theorem IsCoherent.recordProgress (h : g.IsCoherent) (ticket : LoadTicket) (job : JobProgress) :
    (g.recordProgress ticket job).IsCoherent := by
  unfold Grid.recordProgress
  split
  · exact h
  · exact h

theorem IsCoherent.finishLoad (h : g.IsCoherent) (ticket : LoadTicket)
    (obtained : Except GridError LoadOutcome) : (g.finishLoad ticket obtained).2.IsCoherent := by
  by_cases hcurrent : ticket.generation = g.generation
  · cases obtained with
    | ok outcome =>
      rw [finishLoad_ok_of_eq hcurrent]
      exact .nothing
    | error e =>
      rw [finishLoad_error_of_eq hcurrent]
      exact h
  · rw [finishLoad_of_ne hcurrent]
    exact h

variable {σ : Type} (b : Backend σ)

theorem IsCoherent.load (h : g.IsCoherent) (request : LoadRequest) (s : σ) :
    (g.load b request s).grid.IsCoherent := by
  have hnoted (ticket : LoadTicket) (jobs : List JobProgress) {g : Grid} (h : g.IsCoherent) :
      (jobs.foldl (fun g job ↦ g.recordProgress ticket job) g).IsCoherent :=
    List.foldlRecOn jobs _ h fun _ hnext job _ ↦ hnext.recordProgress ticket job
  have hbegun : (g.beginLoad request).2.IsCoherent := h
  exact (hnoted _ _ hbegun).finishLoad _ _

/-- Every action keeps the selection in shape. -/
theorem IsCoherent.perform (h : g.IsCoherent) (a : Action) (s : σ) :
    (a.perform b g s).1.IsCoherent := by
  cases hbegins : a.beginsLoad with
  | true =>
    obtain ⟨request, hlater | hlater⟩ := Action.perform_of_beginsLoad b hbegins g s
    · rw [hlater]
      exact h
    · rw [hlater]
      exact h.load b request s
  | false =>
    cases a with
    | piece p =>
      cases p with
      | progress ticket job => exact h.recordProgress ticket job
      | finishLoad ticket obtained => exact h.finishLoad ticket obtained
      | _ => exact (Action.besideLoads_perform b hbegins rfl nofun g s).selection h
    | operation o => exact (Action.besideLoads_perform b hbegins rfl nofun g s).selection h
    | gesture m =>
      by_cases hdrain : m = .drain
      · subst hdrain
        exact h
      · exact (BesideLoads.gesture g hdrain).selection h

/-- In a reachable grid the selection is in shape. -/
theorem Reachable.isCoherent (h : g.Reachable) : g.IsCoherent := by
  induction h with
  | new config hoursCap => exact .nothing
  | perform b s a _ ih => exact ih.perform b a s

end Grid

end AssignmentGrid
