import AssignmentGrid.Backend.Script
import AssignmentGrid.Proofs.LoadRun
import AssignmentGrid.Proofs.SnapshotCoding

/-!
# Both ways to a snapshot

A snapshot may be fetched in one request or built by a job, whose result comes as JSON once the job
has ended. Whichever way is taken, the grid is the same afterwards. Only the events tell the ways
apart: that of the load names its way, and a job is told of from its beginning to its end.
Specification `SPEC_FULL.md:152–156`.
-/

namespace AssignmentGrid

variable {σ : Type}

/-! ### Jobs -/

/-- The snapshot of a status is the one that its result is read as, if that has any weeks. -/
theorem JobStatus.snapshot_eq_ok_iff {status : JobStatus} {s : Snapshot} :
    status.snapshot = .ok s ↔
      ∃ result, status.result? = some result ∧ Snapshot.ofJson result = .ok s ∧ s.weeks ≠ [] := by
  have hnull (s : Snapshot) : Snapshot.ofJson .null ≠ .ok s := by
    intro hread
    cases hread
  have hpopulated (s : Snapshot) : s.isPopulated = true ↔ s.weeks ≠ [] := by
    rw [Snapshot.isPopulated, Bool.not_eq_true', List.isEmpty_eq_false_iff]
  unfold JobStatus.snapshot
  split
  · next hresult => simp [hresult]
  · next hresult => simp [hresult, hnull]
  · next result _ hresult =>
    rw [hresult]
    cases hread : Snapshot.ofJson result with
    | error e => simp [hread]
    | ok read =>
      dsimp only
      split
      · next hweeks =>
        rw [hpopulated] at hweeks
        constructor
        · rintro ⟨⟩
          exact ⟨result, rfl, hread, hweeks⟩
        · rintro ⟨_, ⟨⟩, hsame, -⟩
          cases hread.symm.trans hsame
          rfl
      · next hweeks =>
        rw [hpopulated, not_not] at hweeks
        constructor
        · intro hempty
          cases hempty
        · rintro ⟨_, ⟨⟩, hsame, hother⟩
          cases hread.symm.trans hsame
          exact absurd hweeks hother

/-- The snapshot is taken from a result that is its JSON form. -/
theorem JobStatus.snapshot_eq_ok {status : JobStatus} {s : Snapshot} (hweeks : s.weeks ≠ [])
    (hfinite : s.IsFinite) (h : status.result? = some s.toJson.canonical) :
    status.snapshot = .ok s :=
  JobStatus.snapshot_eq_ok_iff.mpr ⟨_, h, Snapshot.ofJson_canonical hfinite, hweeks⟩

/-- Polls of a job that are answered by statuses, one after the other; they take the backend from
one state to another. -/
inductive Backend.Polls (b : Backend σ) (job : String) : List JobStatus → σ → σ → Prop
  | nil (s : σ) : b.Polls job [] s s
  | cons {s s' s'' : σ} {status : JobStatus} {rest : List JobStatus}
      (hpoll : b.pollJob job s = (.ok status, s')) (hrest : b.Polls job rest s' s'') :
      b.Polls job (status :: rest) s s''

/-- A load for which a job is chosen that succeeds before it has been waited for too long. -/
structure JobRun (b : Backend σ) (config : LoadConfig) (request : LoadRequest) (s : σ) where
  /-- The name of the job. -/
  job : String
  /-- The polls that find the job still running. -/
  pending : List JobStatus
  /-- The poll that finds that the job has succeeded. -/
  success : JobStatus
  /-- The backend's state when the job has begun. -/
  begun : σ
  /-- The backend's state in the end. -/
  ended : σ
  isChosen : (Load.choosePath config b request s).result = .job
  isSubmitted : b.submitJob request.weeks request.scope
    (Load.choosePath config b request s).backend = (.ok job, begun)
  isPolled : b.Polls job (pending ++ [success]) begun ended
  isPending : ∀ status ∈ pending, status.state = .pending
  isAwaited : pending.length ≤ b.patience config begun
  isSuccess : success.state = .success

namespace JobRun

variable {b : Backend σ} {config : LoadConfig} {request : LoadRequest} {s : σ}

/-- What is heard of the job, from its beginning on and after each poll. -/
def heard (run : JobRun b config request s) : List JobProgress :=
  (run.pending ++ [run.success]).scanl Load.heard ⟨run.job, 0, none⟩

/-- The events that tell of the job. -/
def told (run : JobRun b config request s) : List Event :=
  run.heard.map Grid.progressEvent

end JobRun

namespace Load

variable {b : Backend σ} {config : LoadConfig} {request : LoadRequest} {s : σ}

/-- The choice of a way tells nothing of a job. -/
theorem progress_choosePath (config : LoadConfig) (b : Backend σ) (request : LoadRequest) (s : σ) :
    (choosePath config b request s).progress = [] := by
  have hprobe : (probe config b request.scope s).progress = [] := by
    unfold probe
    split
    · rfl
    · rfl
  have hsize : (if config.weekThreshold < request.weeks then (⟨true, [], s⟩ : Acquired σ Bool)
      else probe config b request.scope s).progress = [] := by
    split
    · rfl
    · exact hprobe
  unfold choosePath
  dsimp only
  generalize (if config.weekThreshold < request.weeks then (⟨true, [], s⟩ : Acquired σ Bool)
    else probe config b request.scope s) = size at hsize ⊢
  unfold Acquired.progress at hsize ⊢
  split
  · dsimp only
    rw [List.filterMap_append, hsize]
    rfl
  · exact hsize

/-- A job that succeeds after polls that find it still running gives the snapshot of its last
status, and has been heard of at its beginning and at each poll. -/
theorem after_await {job : JobProgress} {pending : List JobStatus} {success : JobStatus}
    {patience : Nat} {ended : σ} (hpolls : b.Polls job.job (pending ++ [success]) s ended)
    (hpending : ∀ status ∈ pending, status.state = .pending) (hpatience : pending.length ≤ patience)
    (hsuccess : success.state = .success) :
    (await config b job patience s).after [.progress job] =
      ⟨success.snapshot, ((pending ++ [success]).scanl heard job).map .progress, ended⟩ := by
  induction pending generalizing job patience s with
  | nil =>
    cases hpolls with
    | cons hpoll hrest =>
      cases hrest
      unfold await
      rw [hpoll]
      dsimp only
      rw [hsuccess]
      rfl
  | cons status rest ih =>
    obtain ⟨hstatus, hothers⟩ := List.forall_mem_cons.mp hpending
    obtain ⟨patience, rfl⟩ : ∃ more, patience = more + 1 :=
      Nat.exists_eq_add_one.mpr (Nat.lt_of_lt_of_le (Nat.zero_lt_succ _) hpatience)
    cases hpolls with
    | cons hpoll hrest =>
      have hlater := @ih _ (heard job status) patience hrest hothers
        (Nat.le_of_succ_le_succ hpatience)
      unfold await
      rw [hpoll]
      dsimp only
      rw [hstatus]
      dsimp only
      rw [hlater, List.cons_append, List.scanl_cons, List.map_cons]
      rfl

/-- A load for which a job is run takes what the job gives, or else fetches. It has heard of the
job. -/
theorem acquire_of_job (h : (choosePath config b request s).result = .job)
    {run : Acquired σ (Answer Snapshot)}
    (hrun : runJob config b request (choosePath config b request s).backend = run) :
    let acquired := acquire config b request s
    acquired.progress = run.progress ∧
      (∀ snapshot, run.result = .ok snapshot →
        acquired.result = .ok ⟨snapshot, .job, none⟩ ∧ acquired.backend = run.backend) ∧
      ∀ cause, run.result = .error cause →
        let fetched := fetch b request run.backend
        acquired.result = fetched.1.map (⟨·, .fallback, some (fallbackWarning cause)⟩) ∧
          acquired.backend = fetched.2 := by
  intro acquired
  have hchosen := progress_choosePath config b request s
  unfold Acquired.progress at hchosen
  unfold Acquired.progress
  dsimp only [acquired, acquire]
  rw [h, hrun]
  dsimp only
  cases hresult : run.result with
  | ok snapshot =>
    refine ⟨?_, ?_, nofun⟩
    · dsimp only
      rw [List.filterMap_append, List.filterMap_append, hchosen]
      rfl
    · rintro _ ⟨⟩
      exact ⟨rfl, rfl⟩
  | error cause =>
    refine ⟨?_, nofun, ?_⟩
    · dsimp only
      rw [List.filterMap_append, List.filterMap_append, List.filterMap_append, hchosen]
      exact List.append_nil _
    · rintro _ ⟨⟩
      exact ⟨rfl, rfl⟩

/-- A load for which a job is run that succeeds gives the snapshot of its last status, and hears of
the job alone. -/
theorem acquire_of_jobRun (run : JobRun b config request s) {snapshot : Snapshot}
    (h : run.success.snapshot = .ok snapshot) :
    let acquired := acquire config b request s
    acquired.result = .ok ⟨snapshot, .job, none⟩ ∧ acquired.progress = run.heard ∧
      acquired.backend = run.ended := by
  intro acquired
  have hrun : runJob config b request (choosePath config b request s).backend =
      ⟨run.success.snapshot, run.heard.map .progress, run.ended⟩ := by
    unfold runJob
    rw [run.isSubmitted]
    exact after_await run.isPolled run.isPending run.isAwaited run.isSuccess
  have hheard : (run.heard.map LoadStep.progress).filterMap LoadStep.progress? = run.heard := by
    rw [List.filterMap_map]
    exact List.filterMap_some
  obtain ⟨hprogress, hbuilt, -⟩ := acquire_of_job run.isChosen hrun
  obtain ⟨hresult, hbackend⟩ := hbuilt snapshot h
  exact ⟨hresult, hprogress.trans hheard, hbackend⟩

/-- A load in one request comes to what is fetched, and hears of no job. -/
theorem acquire_of_path_direct (h : (choosePath config b request s).result = .direct) :
    let fetched := fetch b request (choosePath config b request s).backend
    let acquired := acquire config b request s
    acquired.result = fetched.1.map (⟨·, .direct, none⟩) ∧ acquired.progress = [] ∧
      acquired.backend = fetched.2 := by
  intro fetched acquired
  have hchosen := progress_choosePath config b request s
  unfold Acquired.progress at hchosen
  unfold Acquired.progress
  dsimp only [acquired, acquire]
  rw [h]
  refine ⟨rfl, ?_, rfl⟩
  dsimp only
  rw [List.filterMap_append, hchosen]
  rfl

/-- A load in one request gives the snapshot that is answered, and hears of no job. -/
theorem acquire_of_direct (hpath : (choosePath config b request s).result = .direct)
    {snapshot : Snapshot} {ended : σ}
    (hanswer : b.fetchSnapshot request.weeks request.scope (choosePath config b request s).backend =
      (.ok snapshot, ended)) :
    let acquired := acquire config b request s
    acquired.result = .ok ⟨snapshot, .direct, none⟩ ∧ acquired.progress = [] ∧
      acquired.backend = ended := by
  have hfetched : fetch b request (choosePath config b request s).backend =
      (.ok snapshot, ended) := by
    unfold fetch
    rw [hanswer]
  have hdirect := acquire_of_path_direct hpath
  rwa [hfetched] at hdirect

end Load

/-! ### Loads -/

namespace Grid

/-- A snapshot that is fetched and the same snapshot as the result of a job give the same grid. Only
the events differ: the job is told of, and the load names its way. -/
theorem job_loads_same_grid {τ : Type} (g : Grid) (request : LoadRequest) {s : Snapshot}
    (hweeks : s.weeks ≠ []) (hfinite : s.IsFinite)
    {direct : Backend σ} {x x' : σ}
    (hpath : (Load.choosePath g.config direct request x).result = .direct)
    (hanswer : direct.fetchSnapshot request.weeks request.scope
      (Load.choosePath g.config direct request x).backend = (.ok s, x'))
    {server : Backend τ} {y : τ} (run : JobRun server g.config request y)
    (hresult : run.success.result? = some s.toJson.canonical) :
    let fetched := g.load direct request x
    let built := g.load server request y
    fetched.result = .ok () ∧ built.result = .ok () ∧
      fetched.grid.loadState = .ready ∧
      fetched.grid.events = g.events ++ [.loaded (g.generation + 1) .direct] ∧
      built.grid = { fetched.grid with
        events := g.events ++ run.told ++ [.loaded (g.generation + 1) .job] } := by
  intro fetched built
  have hfetched : fetched = ⟨.ok (), g.showing request s
      (g.events ++ [.loaded (g.generation + 1) .direct]), x'⟩ := by
    obtain ⟨hresult, hprogress, hbackend⟩ := Load.acquire_of_direct hpath hanswer
    have hload := load_of_ok hresult
    rwa [hprogress, hbackend, List.map_nil, warnings, List.append_nil, List.append_nil] at hload
  have hbuilt : built = ⟨.ok (), g.showing request s
      (g.events ++ run.told ++ [.loaded (g.generation + 1) .job]), run.ended⟩ := by
    obtain ⟨hresult, hprogress, hbackend⟩ :=
      Load.acquire_of_jobRun run (JobStatus.snapshot_eq_ok hweeks hfinite hresult)
    have hload := load_of_ok hresult
    rwa [hprogress, hbackend, warnings, List.append_nil] at hload
  rw [hfetched, hbuilt]
  exact ⟨rfl, rfl, rfl, rfl, rfl⟩

/-- A small scope and a large one with the same data, whose job is found running once. -/
theorem job_loads_same_grid_after_pending_poll :
    let week : WeekKey := ⟨"2025-01-06"⟩
    let s : Snapshot :=
      { weeks := [week]
        people := [⟨7, "Ada"⟩]
        rows := [{ id := 42, person := 7, project := 1, hours := (∅ : Hours).insert week 8 }]
        projects := [⟨1, "Alpha", none⟩]
        totals := Totals.empty.set 7 week 8 }
    let small : Script := { snapshots := [.ok s] }
    let large : Script :=
      { counts := [.ok 1000]
        runsJobs := true
        polls := [.ok { state := .pending, progress := 40 },
          .ok { state := .success, progress := 100, result? := some s.toJson.canonical }] }
    let fetched := ({} : Grid).load Script.backend {} small
    let built := ({} : Grid).load Script.backend {} large
    s.weeks ≠ [] ∧ s.IsFinite ∧
      fetched.grid.events = [.loaded 1 .direct] ∧
      built.grid = { fetched.grid with
        events := [.progress 0 none, .progress 40 none, .progress 100 none, .loaded 1 .job] } := by
  intro week s small large fetched built
  have hhours : Hours.IsFinite ((∅ : Hours).insert week 8) :=
    Hours.isFinite_empty.insert (by decide +kernel)
  have hfinite : s.IsFinite := by
    constructor
    case rows =>
      intro a ha
      rw [List.mem_singleton.mp ha]
      exact hhours
    case totals => exact Totals.isFinite_empty.set (by decide +kernel)
  let run : JobRun Script.backend {} {} large :=
    { job := "job-1"
      pending := [{ state := .pending, progress := 40 }]
      success := { state := .success, progress := 100, result? := some s.toJson.canonical }
      begun := { large with counts := [] }
      ended := { large with counts := [], polls := [] }
      isChosen := rfl
      isSubmitted := rfl
      isPolled := .cons rfl (.cons rfl (.nil _))
      isPending := by
        intro status hstatus
        rw [List.mem_singleton.mp hstatus]
      isAwaited := by decide
      isSuccess := rfl }
  have hpath : (Load.choosePath {} Script.backend {} small).result = .direct := rfl
  have hload := job_loads_same_grid {} {} (List.cons_ne_nil week []) hfinite hpath rfl run rfl
  have htold : run.told = [.progress 0 none, .progress 40 none, .progress 100 none] := by
    have hforty (status : JobStatus) (h : status.progress = 40) : status.percent = 40 := by
      rw [JobStatus.percent, h]
      decide +kernel
    have hhundred (status : JobStatus) (h : status.progress = 100) : status.percent = 100 := by
      rw [JobStatus.percent, h]
      decide +kernel
    simp [JobRun.told, JobRun.heard, Load.heard, progressEvent, run, hforty, hhundred]
  rw [htold] at hload
  exact ⟨List.cons_ne_nil week [], hfinite, hload.2.2.2.1, hload.2.2.2.2⟩

end Grid

end AssignmentGrid
