import AssignmentGrid.Backend.Basic
import AssignmentGrid.GridError

/-!
# Acquiring a snapshot

A snapshot is fetched in one request, or built by a job when the load is large and the backend runs
jobs. A job that fails in whatever way is followed by a single request, and only if that fails too
is there no snapshot. On the way there the job is polled until it has ended or has taken too long.
Specification `SnapshotLoader`, `SPEC_FULL.md:147–163`.
-/

namespace AssignmentGrid

/-- A step on the way to a snapshot. -/
inductive LoadStep where
  /-- How many people there are was not found out, so that they count as few. -/
  | probeFailed (cause : BackendError)
  /-- The backend was asked whether it runs jobs. -/
  | askedForJobs
  /-- The way was chosen. -/
  | chose (path : LoadPath)
  /-- The job was heard of. -/
  | progress (job : JobProgress)
  /-- The job failed. -/
  | jobFailed (cause : BackendError)
  deriving DecidableEq, Repr

/-- What is heard of the job, if the step is about it. -/
def LoadStep.progress? : LoadStep → Option JobProgress
  | .progress job => some job
  | _ => none

/-- How the way to a snapshot ended, the steps that led there, and the backend's state. -/
structure Acquired (σ α : Type) where
  result : α
  steps : List LoadStep
  backend : σ

namespace Acquired

/-- What was heard of the job, in order. -/
def progress {σ α : Type} (a : Acquired σ α) : List JobProgress :=
  a.steps.filterMap LoadStep.progress?

/-- The same way, with steps before it. -/
def after {σ α : Type} (steps : List LoadStep) (a : Acquired σ α) : Acquired σ α :=
  { a with steps := steps ++ a.steps }

end Acquired

namespace Load

variable {σ : Type}

/-- Whether many people are in scope. A failed probe counts as few. Specification
`estimate_row_count`, `SPEC_FULL.md:148,162–163`. -/
def probe (config : LoadConfig) (b : Backend σ) (scope : Scope) (s : σ) : Acquired σ Bool :=
  match b.countPeople scope s with
  | (.ok n, s) => ⟨decide (config.peopleThreshold < n), [], s⟩
  | (.error e, s) => ⟨false, [.probeFailed e], s⟩

/-- A load goes through a job if it is large and the backend runs jobs. It is large when it has many
weeks or else, which is asked only then, when it has many people. Operation `choose_path`,
specification `SPEC_FULL.md:148–150`. -/
def choosePath (config : LoadConfig) (b : Backend σ) (request : LoadRequest) (s : σ) :
    Acquired σ LoadPath :=
  let size := if config.weekThreshold < request.weeks then ⟨true, [], s⟩
    else probe config b request.scope s
  if size.result then
    let (runsJobs, s) := b.runsJobs size.backend
    ⟨if runsJobs then .job else .direct, size.steps ++ [.askedForJobs], s⟩
  else ⟨.direct, size.steps, size.backend⟩

/-- What is known of a job after a poll: a message stands until there is another one. Specification
`SPEC_FULL.md:152–153`. -/
def heard (job : JobProgress) (status : JobStatus) : JobProgress :=
  { job with percent := status.percent, message? := status.message? <|> job.message? }

/-- The failure of a job that has taken too long. Specification `SPEC_FULL.md:158–159`. -/
def tookTooLong (config : LoadConfig) (job : String) : BackendError :=
  let seconds := Decimal.intText config.pollTimeout.toNat
  .timeout s!"job {job} did not finish within {seconds}s"

/-- Poll a job until it has ended. At most `patience` polls may find it still running without the
wait coming to its end. Specification `poll_job`, `SPEC_FULL.md:152–159`. -/
def await (config : LoadConfig) (b : Backend σ) (job : JobProgress) (patience : Nat) (s : σ) :
    Acquired σ (Answer Snapshot) :=
  match b.pollJob job.job s with
  | (.error e, s) => ⟨.error e, [], s⟩
  | (.ok status, s) =>
    let job := heard job status
    match status.state, patience with
    | .success, _ => ⟨status.snapshot, [.progress job], s⟩
    | .failure, _ => ⟨.error (.validation (status.error?.getD "job failed")), [.progress job], s⟩
    | .pending, 0 => ⟨.error (tookTooLong config job.job), [.progress job], s⟩
    | .pending, patience + 1 => (await config b job patience s).after [.progress job]

/-- Have a job build the snapshot. Operation `run_job`, specification `SPEC_FULL.md:152–157`. -/
def runJob (config : LoadConfig) (b : Backend σ) (request : LoadRequest) (s : σ) :
    Acquired σ (Answer Snapshot) :=
  match b.submitJob request.weeks request.scope s with
  | (.error e, s) => ⟨.error e, [], s⟩
  | (.ok name, s) =>
    let job : JobProgress := ⟨name, 0, none⟩
    (await config b job (b.patience config s) s).after [.progress job]

/-- Fetch the snapshot in one request. Operation `fetch_direct`, specification `SPEC_FULL.md:151`.
-/
def fetch (b : Backend σ) (request : LoadRequest) (s : σ) : Except GridError Snapshot × σ :=
  match b.fetchSnapshot request.weeks request.scope s with
  | (.ok snapshot, s) => (.ok snapshot, s)
  | (.error e, s) => (.error (.snapshotAcquisition e.message), s)

/-- The warning after a job that failed. Specification `SPEC_FULL.md:155–157`. -/
def fallbackWarning (cause : BackendError) : String :=
  s!"Background load failed ({cause.message}); loaded directly instead"

/-- Obtain a snapshot. Operation `acquire`, specification `SPEC_FULL.md:148–163`. -/
def acquire (config : LoadConfig) (b : Backend σ) (request : LoadRequest) (s : σ) :
    Acquired σ (Except GridError LoadOutcome) :=
  let chosen := choosePath config b request s
  let steps := chosen.steps ++ [.chose chosen.result]
  match chosen.result with
  | .job =>
    let run := runJob config b request chosen.backend
    match run.result with
    | .ok snapshot => ⟨.ok ⟨snapshot, .job, none⟩, steps ++ run.steps, run.backend⟩
    | .error cause =>
      let (fetched, s) := fetch b request run.backend
      ⟨fetched.map fun snapshot => ⟨snapshot, .fallback, some (fallbackWarning cause)⟩,
        steps ++ run.steps ++ [.jobFailed cause], s⟩
  | path =>
    let (fetched, s) := fetch b request chosen.backend
    ⟨fetched.map fun snapshot => ⟨snapshot, path, none⟩, steps, s⟩

end Load

end AssignmentGrid
