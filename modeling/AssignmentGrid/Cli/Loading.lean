import AssignmentGrid.Cli.Arguments
import AssignmentGrid.Cli.Session
import AssignmentGrid.Text.Column

/-!
# Loading for a command

A command that needs the grid connects with the stored token and loads what its arguments ask for.
The way to the snapshot is told of as it is taken. Specification `SPEC_FULL.md:295,316–317`.
-/

namespace AssignmentGrid.Cli

variable {τ : Type}

/-- The client for the stored token, at the address that the user has named or else at the stored
one. Operation `connect`, specification `SPEC_FULL.md:295`. -/
def connect : Run τ Http.Client := do
  match (← get).auth?.bind fun file => Credentials.ofText? file.text.toList with
  | none => throw (.ofBackend .notAuthenticated)
  | some stored =>
    match (← read).apiBase? with
    | none => return .ofCredentials stored
    | some base => return .ofCredentials { stored with apiBase := base }

/-- The name of a way to a snapshot. -/
def pathName : LoadPath → String
  | .direct => "Sync"
  | .job => "Async"
  | .fallback => "AsyncFallback"

/-- What to load: without a number of weeks that of the settings. Operation `load_request`,
specification `SPEC_FULL.md:316–317`. -/
def loadRequest (settings : Settings) (limits : LoadLimits) : Except Failure LoadRequest :=
  let weeks := limits.weeks?.getD settings.defaultWeeks
  if weeks = 0 then .error (.usage "--weeks must be at least 1") else .ok ⟨weeks, limits.scope⟩

/-- How far a job has come, written over what was shown before. -/
def progressText (job : JobProgress) : String :=
  let percent := String.ofList (Text.alignRight 3 (Nat.toDigits 10 job.percent.toNat))
  s!"\rBuilding snapshot... {percent}%"

/-- Tell of a step on the way to a snapshot. `refusal?` says why the backend did not answer
whether it runs jobs. -/
def tellStep (weeks : UInt32) (refusal? : Option BackendError) : LoadStep → Run τ Unit
  | .probeFailed e => Run.log .warn s!"Size probe failed, loading directly: {e.message}"
  | .askedForJobs =>
    match refusal? with
    | some e => Run.log .warn s!"capability probe failed, assuming no async jobs: {e.message}"
    | none => return
  | .chose path =>
    let count := Decimal.intText weeks.toNat
    let name := pathName path
    Run.log .info s!"Loading {count} weeks via {name} path"
  | .progress job => Run.tell (progressText job)
  | .jobFailed e => Run.log .warn s!"Snapshot job failed, falling back to direct fetch: {e.message}"

/-- Tell of the end of a load. -/
def tellLoaded (g : Grid) : Except GridError LoadOutcome → Run τ Unit
  | .ok outcome =>
    let weeks := Decimal.intText g.axis.size
    let people := Decimal.intText g.roster.people.length
    let name := pathName outcome.path
    Run.log .info s!"Loaded {weeks} weeks, {people} people ({name})"
  | .error e => Run.log .error s!"Load failed: {e.message}"

/-- Load the grid. Operation `load_grid`, specification `SPEC_FULL.md:316–317`. -/
def loadGrid (b : Backend (Http.Connection τ)) (limits : LoadLimits) : Run τ Unit := do
  let settings := (← read).settings
  let request ← liftM (loadRequest settings limits)
  let g : Grid := { config := settings.loadConfig, hoursCap := settings.effectiveCap }
  let (ticket, g) := g.beginLoad request
  let acquired := Load.acquire g.config b request (← get).connection
  let refusal? := match acquired.backend.capability? with
    | some (.error e) => some e
    | _ => none
  acquired.steps.forM (tellStep request.weeks refusal?)
  unless acquired.progress.isEmpty do Run.tellLine ""
  let loaded ← Run.call fun _ _ => g.completeLoad ticket acquired
  tellLoaded (← Run.grid) acquired.result
  Run.showEvents
  discard (Run.orFail loaded)

end AssignmentGrid.Cli
