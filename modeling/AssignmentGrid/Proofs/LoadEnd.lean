import AssignmentGrid.Proofs.LoadRun

/-!
# The end of a load

A load that runs from its beginning to its end has ended, however the way to the snapshot went: the
grid either is ready and shows the snapshot, or has failed and shows what it showed before. The
events tell in order what was heard of the job and, only of a load that is ready, the warning and
the load itself. Specification `SPEC_FULL.md:151–157,166–167,248–250`.
-/

namespace AssignmentGrid

/-- What a load leaves behind: `acquired` is the way that it took to a snapshot, and `reply` what it
gives. -/
structure LoadEnd {σ : Type} (g : Grid) (request : LoadRequest)
    (acquired : Acquired σ (Except GridError LoadOutcome))
    (reply : Reply σ (Except GridError Unit)) : Prop where
  generation : reply.grid.generation = g.generation + 1
  /-- The number of loads has grown by one, if it fits its word. -/
  counted : g.generation.toNat + 1 < UInt64.size →
    reply.grid.generation.toNat = g.generation.toNat + 1
  asked : reply.grid.request = request
  backend : reply.backend = acquired.backend
  /-- Nothing is under way any more, -/
  isOver : reply.grid.loadState.isLoading = false
  /-- and no job is waited for. -/
  job? : reply.grid.loadState.job? = none
  /-- A load that succeeds has shown a snapshot, with nothing selected or edited. -/
  ready : reply.result = .ok () → ∃ outcome, acquired.result = .ok outcome ∧
    reply.grid.loadState = .ready ∧
    reply.grid.events = g.events ++ acquired.progress.map Grid.progressEvent ++
      Grid.warnings outcome.warning? ++ [.loaded (g.generation + 1) outcome.path] ∧
    reply.grid.selection = {} ∧ reply.grid.edit? = none
  /-- A load that fails leaves everything as it was, but for the events that tell of its job. -/
  failed : ∀ e, reply.result = .error e → acquired.result = .error e ∧
    reply.grid =
      { g with
        loadState := .failed e.message
        generation := g.generation + 1
        request
        events := g.events ++ acquired.progress.map Grid.progressEvent }

namespace Grid

variable {σ : Type} (g : Grid) (b : Backend σ) (request : LoadRequest) (s : σ)

/-- A load ends with the snapshot that is acquired, or with the failure to acquire one. -/
theorem loadEnd : LoadEnd g request (Load.acquire g.config b request s) (g.load b request s) := by
  cases hresult : (Load.acquire g.config b request s).result with
  | ok outcome =>
    rw [load_of_ok hresult]
    constructor
    case generation => rfl
    case counted => exact fun h ↦ toNat_generation_beginLoad h request
    case asked => rfl
    case backend => rfl
    case isOver => rfl
    case job? => rfl
    case ready => exact fun _ ↦ ⟨outcome, hresult, rfl, rfl, rfl, rfl⟩
    case failed => exact nofun
  | error e =>
    rw [load_of_error hresult]
    constructor
    case generation => rfl
    case counted => exact fun h ↦ toNat_generation_beginLoad h request
    case asked => rfl
    case backend => rfl
    case isOver => rfl
    case job? => rfl
    case ready => exact nofun
    case failed =>
      intro other hother
      cases hother
      exact ⟨hresult, rfl⟩

end Grid

/-- Loads end the same way whether they are asked for with a request of their own, for what was
loaded last, for another number of weeks or for another scope. -/
theorem load_end {σ : Type} (g : Grid) (b : Backend σ) (s : σ) :
    let acquired (request : LoadRequest) := Load.acquire g.config b request s
    (∀ request, LoadEnd g request (acquired request) (g.load b request s)) ∧
      LoadEnd g g.request (acquired g.request) (g.reload b s) ∧
      (∀ weeks, LoadEnd g { g.request with weeks } (acquired { g.request with weeks })
        (g.setWeeks b weeks s)) ∧
      ∀ scope, LoadEnd g { g.request with scope } (acquired { g.request with scope })
        (g.setScope b scope s) := by
  intro acquired
  refine ⟨?_, ?_, ?_, ?_⟩
  · exact fun request ↦ g.loadEnd b request s
  · exact g.loadEnd b g.request s
  · exact fun weeks ↦ g.loadEnd b { g.request with weeks } s
  · exact fun scope ↦ g.loadEnd b { g.request with scope } s

end AssignmentGrid
