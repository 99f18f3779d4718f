import AssignmentGrid.Load.Request
import AssignmentGrid.Backend.Write

/-!
# The backend

The backend keeps the assignments and answers calls. What it will answer may depend on everything
that has happened to it before, so each call takes the backend's state and gives the next one.
Specification `GridBackend`, `SPEC_FULL.md:199–205`.
-/

namespace AssignmentGrid

/-- What a call to the backend gives. -/
abbrev Answer (α : Type) := Except BackendError α

/-- The calls that the grid makes, over states `σ` of the backend. Specification `GridBackend`,
`SPEC_FULL.md:199–205`. -/
structure Backend (σ : Type) where
  /-- A whole snapshot in one request. -/
  fetchSnapshot : UInt32 → Scope → σ → Answer Snapshot × σ
  /-- Begin a snapshot job; the answer is the job's name. -/
  submitJob : UInt32 → Scope → σ → Answer String × σ
  /-- How far a job has come. -/
  pollJob : String → σ → Answer JobStatus × σ
  /-- All rows of a person. -/
  fetchRows : PersonId → σ → Answer (List Assignment) × σ
  /-- Put a person on a project. -/
  createRow : PersonId → ProjectId → σ → Answer Assignment × σ
  /-- Delete an assignment. -/
  deleteRow : AssignmentId → σ → Answer Unit × σ
  /-- Replace the hours of a row; the answer is the row as it is stored then. -/
  updateHours : AssignmentId → Hours → σ → Answer Assignment × σ
  /-- Replace the hours of several rows. -/
  updateMany : List HoursUpdate → σ → Answer (List RowResult) × σ
  /-- How many people are in a scope. -/
  countPeople : Scope → σ → Answer UInt64 × σ
  /-- Whether the backend runs snapshot jobs. -/
  runsJobs : σ → Bool × σ
  /-- How many polls may find a job still running before it has taken too long. -/
  patience : LoadConfig → σ → Nat

/-- A call to the backend, as it is written into a log. -/
inductive Call where
  | fetchSnapshot (weeks : UInt32) (scope : Scope)
  | submitJob (weeks : UInt32) (scope : Scope)
  | pollJob (job : String)
  | fetchRows (person : PersonId)
  | createRow (person : PersonId) (project : ProjectId)
  | deleteRow (id : AssignmentId)
  | updateHours (id : AssignmentId) (hours : Hours)
  | updateMany (updates : List HoursUpdate)
  | countPeople (scope : Scope)
  | runsJobs

/-- A backend's state with the calls made so far. -/
structure Logged (σ : Type) where
  state : σ
  calls : List Call := []

/-- Make a call and write it into the log. -/
def Logged.call {σ α : Type} (s : Logged σ) (c : Call) (f : σ → α × σ) : α × Logged σ :=
  let (answer, state) := f s.state
  (answer, ⟨state, s.calls ++ [c]⟩)

/-- The backend that logs the calls made to it. -/
def Backend.logged {σ : Type} (b : Backend σ) : Backend (Logged σ) where
  fetchSnapshot weeks scope s := s.call (.fetchSnapshot weeks scope) (b.fetchSnapshot weeks scope)
  submitJob weeks scope s := s.call (.submitJob weeks scope) (b.submitJob weeks scope)
  pollJob job s := s.call (.pollJob job) (b.pollJob job)
  fetchRows p s := s.call (.fetchRows p) (b.fetchRows p)
  createRow p q s := s.call (.createRow p q) (b.createRow p q)
  deleteRow id s := s.call (.deleteRow id) (b.deleteRow id)
  updateHours id hours s := s.call (.updateHours id hours) (b.updateHours id hours)
  updateMany updates s := s.call (.updateMany updates) (b.updateMany updates)
  countPeople scope s := s.call (.countPeople scope) (b.countPeople scope)
  runsJobs s := s.call .runsJobs b.runsJobs
  patience config s := b.patience config s.state

end AssignmentGrid
