import AssignmentGrid.Backend.Job
import AssignmentGrid.Backend.Scope

/-!
# Loads

What a load asks for, when it goes through a job, and how far it has come. Specification
`JobHandle`, `SnapshotLoader`, `SPEC_FULL.md:79–80,147–163`.
-/

namespace AssignmentGrid

/-- When a load goes through a job, and for how long the job is waited for. Specification
`SPEC_FULL.md:148–150,153,158–159,290–293`. -/
structure LoadConfig where
  /-- Loads of more weeks go through a job. -/
  weekThreshold : UInt32 := 20
  /-- Loads of more people go through a job. -/
  peopleThreshold : UInt64 := 400
  /-- Milliseconds between two polls. -/
  pollInterval : UInt64 := 1500
  /-- Seconds after which a job counts as failed. -/
  pollTimeout : UInt64 := 300
  deriving DecidableEq, Repr

/-- How many polls fit into the time for which a job is waited for if they take no time themselves,
at the least distance of a millisecond. Specification `SPEC_FULL.md:158–159`. -/
def LoadConfig.patience (config : LoadConfig) : Nat :=
  1000 * config.pollTimeout.toNat / max 1 config.pollInterval.toNat

/-- What a load asks for. Specification `SPEC_FULL.md:148–150`. -/
structure LoadRequest where
  weeks : UInt32 := 12
  scope : Scope := {}
  deriving DecidableEq, Repr

/-- The way in which a snapshot was obtained. -/
inductive LoadPath where
  /-- In one request. -/
  | direct
  /-- By a job. -/
  | job
  /-- In one request, after a job had failed. -/
  | fallback
  deriving DecidableEq, Repr

/-- A job that is being waited for. Specification `JobHandle`, `SPEC_FULL.md:79–80`. -/
structure JobProgress where
  job : String
  percent : UInt8
  message? : Option String
  deriving DecidableEq, Repr

/-- A snapshot that has been obtained, with a warning when a job had failed. -/
structure LoadOutcome where
  snapshot : Snapshot
  path : LoadPath
  warning? : Option String

/-- How far the grid's load has come. Specification `SPEC_FULL.md:151,249`. -/
inductive LoadState where
  | idle
  | loading
  | polling (job : JobProgress)
  | ready
  | failed (message : String)
  deriving DecidableEq, Repr

namespace LoadState

/-- The job that is being waited for. Specification `SPEC_FULL.md:79–80`. -/
def job? : LoadState → Option JobProgress
  | polling job => some job
  | _ => none

/-- Whether a load is under way. -/
def isLoading : LoadState → Bool
  | loading | polling _ => true
  | idle | ready | failed _ => false

end LoadState

/-- A load that has begun. Only the load that began last may finish. Specification `LoadTicket`,
`SPEC_FULL.md:160–161`. -/
structure LoadTicket where
  generation : UInt64
  request : LoadRequest
  deriving DecidableEq, Repr

end AssignmentGrid
