import AssignmentGrid.Snapshot
import AssignmentGrid.Backend.Error

/-!
# Snapshot jobs

A large snapshot is built by a job on the server, which is asked for its state again and again until
it has ended. The result of a job that succeeded is kept as it was sent, and read only when the
snapshot is taken from it. Specification `SPEC_FULL.md:152–157,214`.
-/

namespace AssignmentGrid

/-- How far a job has come. Specification `SPEC_FULL.md:154–155`. -/
inductive JobState where
  | pending
  | success
  | failure
  deriving DecidableEq, Repr

namespace JobState

/-- The name of a state. -/
def name : JobState → String
  | pending => "PENDING"
  | success => "SUCCESS"
  | failure => "FAILURE"

/-- The names of states; a job that has not ended may go by several names. -/
def names : List (String × JobState) :=
  [("PENDING", .pending), ("PROGRESS", .pending), ("QUEUED", .pending), ("RUNNING", .pending),
    ("STARTED", .pending), ("SUCCESS", .success), ("FAILURE", .failure)]

/-- The state with a given name. -/
def ofName (name : String) : Json.Decoded JobState :=
  match names.lookup name with
  | some state => .ok state
  | none => .error (.unknownName name (names.map Prod.fst))

/-- A state from its wire form: its name, or an object with its name as the only member and
`null` as that member's value. -/
def ofJson : Json → Json.Decoded JobState
  | .string s => ofName s
  | .object [(s, value)] => do
    let state ← ofName s
    match value with
    | .null => return state
    | other => Json.refuse other "unit"
  | .object _ => .error (.wrongValue .map "map with a single key")
  | j => Json.refuse j "string or map"

end JobState

/-- What the server says of a job. Specification `SPEC_FULL.md:214`. -/
structure JobStatus where
  state : JobState
  progress : Float := 0
  message? : Option String := none
  /-- What the job has built, as it was sent. -/
  result? : Option Json := none
  error? : Option String := none

namespace JobStatus

/-- The member for the state. -/
def stateMember : Json.Member JobState := .required "state" JobState.ofJson

/-- The member for the progress. -/
def progressMember : Json.Member Float := .defaulted "progress" Json.toFloat 0

/-- The member for the message. -/
def messageMember : Json.Member (Option String) := .optional "message" Json.toText

/-- The member for the result, which may be any value. -/
def resultMember : Json.Member (Option Json) := .optional "result" Except.ok

/-- The member for the error. -/
def errorMember : Json.Member (Option String) := .optional "error" Json.toText

/-- The members in the order of declaration. -/
def fields : List Json.Field :=
  [stateMember.field, progressMember.field, messageMember.field, resultMember.field,
    errorMember.field]

/-- A status from its wire form. -/
def ofJson (j : Json) : Json.Decoded JobStatus := do
  let members ← j.toMembers "struct JobStatus" fields
  return {
    state := ← stateMember.get members
    progress := ← progressMember.get members
    message? := ← messageMember.get members
    result? := ← resultMember.get members
    error? := ← errorMember.get members }

/-- The wire form of a status. -/
def toJson (s : JobStatus) : Json :=
  .object [("state", .string s.state.name), ("progress", .ofFloat s.progress),
    ("message", .ofText? s.message?), ("result", s.result?.getD .null),
    ("error", .ofText? s.error?)]

/-- Whether the job has ended. -/
def isTerminal (s : JobStatus) : Bool := s.state != .pending

/-- The snapshot that a successful job has built. Specification `SPEC_FULL.md:154–156`. -/
def snapshot (s : JobStatus) : Except BackendError Snapshot :=
  match s.result? with
  | none | some .null => .error (.parse "job succeeded without a result")
  | some result =>
    match Snapshot.ofJson result with
    | .error e => .error (.parse s!"malformed job result: {e.message}")
    | .ok snapshot =>
      if snapshot.isPopulated then .ok snapshot else .error (.parse "job result has no week keys")

/-- The progress in whole percent, brought between 0 and 100. -/
def percent (s : JobStatus) : UInt8 :=
  if s.progress < 0 then 0 else if 100 < s.progress then 100 else s.progress.toUInt8

end JobStatus

end AssignmentGrid
