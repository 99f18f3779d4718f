import AssignmentGrid.Backend.Basic

/-!
# Scripted backends

A backend that answers from a script: for each kind of call there is a queue of answers, and a
rule for calls that find the queue empty.
-/

namespace AssignmentGrid

/-- The answers that a scripted backend still has to give. -/
structure Script where
  snapshots : List (Answer Snapshot) := []
  submits : List (Answer String) := []
  polls : List (Answer JobStatus) := []
  details : List (Answer (List Assignment)) := []
  creates : List (Answer Assignment) := []
  deletes : List (Answer Unit) := []
  updates : List (Answer Assignment) := []
  bulks : List (Answer (List RowResult)) := []
  counts : List (Answer UInt64) := []
  /-- The snapshot that is delivered when no other is queued. -/
  standing? : Option Snapshot := none
  /-- Whether jobs are run. -/
  runsJobs : Bool := false
  /-- The assignments that are locked. -/
  locked : List AssignmentId := []
  /-- The number of the next assignment that is created. -/
  nextId : AssignmentId := 1000

namespace Script

/-- Take the first answer of a queue; `rest` puts the remaining queue back. -/
def pop {α : Type} (queue : List (Answer α)) (rest : List (Answer α) → Script)
    (otherwise : Answer α × Script) : Answer α × Script :=
  match queue with
  | first :: more => (first, rest more)
  | [] => otherwise

/-- Whether an assignment is locked. -/
def isLocked (s : Script) (id : AssignmentId) : Bool := s.locked.contains id

/-- The answer for a row of a batch. -/
def rowResult (s : Script) (u : HoursUpdate) : RowResult :=
  if s.isLocked u.assignment then .failed u.assignment "assignment is locked" else .ok u.assignment

/-- The backend that answers from its script. A job without further polls fails at the next one,
so that it is never waited for longer than the script is. -/
def backend : Backend Script where
  fetchSnapshot _ _ s := pop s.snapshots (fun q => { s with snapshots := q })
    (match s.standing? with
      | some snapshot => .ok snapshot
      | none => .error (.http 503 "unavailable"), s)
  submitJob _ _ s := pop s.submits (fun q => { s with submits := q }) (.ok "job-1", s)
  pollJob _ s := pop s.polls (fun q => { s with polls := q })
    (.error (.network "no more polls scripted"), s)
  fetchRows _ s := pop s.details (fun q => { s with details := q }) (.ok [], s)
  createRow p q s := pop s.creates (fun queue => { s with creates := queue })
    (.ok { id := s.nextId, person := p, project := q }, { s with nextId := s.nextId + 1 })
  deleteRow id s := pop s.deletes (fun q => { s with deletes := q })
    (if s.isLocked id then .error (.http 500 "delete failed") else .ok (), s)
  updateHours id hours s := pop s.updates (fun q => { s with updates := q })
    (if s.isLocked id then .error (.validation "assignment is locked")
      else .ok { id, person := 0, project := 0, hours }, s)
  updateMany updates s := pop s.bulks (fun q => { s with bulks := q })
    (.ok (updates.map s.rowResult), s)
  countPeople _ s := pop s.counts (fun q => { s with counts := q }) (.ok 10, s)
  runsJobs s := (s.runsJobs, s)
  patience config s := if config.pollTimeout = 0 then 0 else s.polls.length

end Script

end AssignmentGrid
