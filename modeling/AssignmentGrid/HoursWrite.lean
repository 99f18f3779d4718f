import AssignmentGrid.Backend.Basic
import AssignmentGrid.Event
import AssignmentGrid.Roster

/-!
# Writing hours

A value is written to many cells at once in three steps, with the round trip to the server between
two of them. Preparing puts the value into the held rows and remembers what was there. Sending asks
the server, row by row or in a batch. Settling puts back the weeks of rows that were refused, takes
over what the server says it has stored, and reports. Totals of the written pairs are computed anew
after preparing and after settling. Specification `BulkMutator`, `SPEC_FULL.md:127–145`.
-/

namespace AssignmentGrid

/-- The held rows and the totals, which a write changes. -/
structure Sheet where
  roster : Roster
  totals : Totals

/-- A row's part of a write. Specification `GroupPlan`, `SPEC_FULL.md:128–129`. -/
structure RowPlan where
  row : RowKey
  /-- The written weeks and what was there before; `none` stands for a week without an entry. -/
  former : List (WeekKey × Option Float)
  /-- All hours of the row after the write. -/
  hours : Hours

/-- A write that is in the held rows, but not sent yet. Specification `PendingBulk`,
`SPEC_FULL.md:140–142`. -/
structure PreparedWrite where
  plans : List RowPlan
  /-- The rows that are not held. -/
  skipped : List RowKey := []

/-- How the write of a row ended. Specification `GroupOutcome`, `SPEC_FULL.md:134,143–145`. -/
inductive RowOutcome where
  /-- The row was taken; a single row comes back as it is stored. -/
  | committed (stored? : Option Assignment)
  | failed (reason : String)

/-- A write that was sent, with an outcome for each of its rows. Specification `DispatchedBulk`,
`SPEC_FULL.md:140–142`. -/
structure SentWrite where
  prepared : PreparedWrite
  outcomes : List RowOutcome

/-- What became of the rows of a write. Specification `BulkReport`, `SPEC_FULL.md:134–139`. -/
structure WriteReport where
  committed : List RowKey := []
  /-- The rows that were refused, and why. -/
  failed : List (RowKey × String) := []
  skipped : List RowKey := []
  deriving DecidableEq, Repr

/-- Whether no row was refused. -/
def WriteReport.isSuccess (r : WriteReport) : Bool := r.failed.isEmpty

namespace RowPlan

/-- The written weeks. -/
def weeks (p : RowPlan) : List WeekKey := p.former.map Prod.fst

/-- Hours with the former entries in the written weeks. -/
def restore (p : RowPlan) (h : Hours) : Hours := p.former.foldl (fun h e => h.put e.1 e.2) h

/-- Hours with the entries of a stored row in the written weeks. -/
def adopt (p : RowPlan) (stored : Hours) (h : Hours) : Hours :=
  p.weeks.foldl (fun h week => h.put week stored[week]?) h

/-- Hours after an outcome. -/
def settleHours (p : RowPlan) (outcome : RowOutcome) (h : Hours) : Hours :=
  match outcome with
  | .committed (some stored) => p.adopt stored.hours h
  | .committed none => h
  | .failed _ => p.restore h

end RowPlan

/-- The cells of each row that is written to: the rows in the order in which they first occur, the
weeks of a row likewise, none of them twice. Specification `SPEC_FULL.md:128`. -/
def groupCells (cells : List Cell) : List (RowKey × List WeekKey) :=
  (firstOccurrences (cells.map Cell.row)).map fun row =>
    (row, firstOccurrences ((cells.filter fun c => c.row = row).map Cell.week))

namespace Sheet

/-- The totals of the pairs that a row's part of a write touches, computed anew. Operation
`recompute_totals`, specification `SPEC_FULL.md:131–132`. -/
def recompute (s : Sheet) (p : RowPlan) : Sheet :=
  { s with totals := s.totals.recomputeAll p.row.person (s.roster.rowsFor p.row.person) p.weeks }

/-- A row's part of a write, if the row is held. Specification `SPEC_FULL.md:128–129,138–139`. -/
def plan? (s : Sheet) (value : Float) (group : RowKey × List WeekKey) : Option RowPlan :=
  (s.roster.find? group.1).map fun a =>
    ⟨group.1, group.2.map fun week => (week, a.hours[week]?), a.hours.fill group.2 value⟩

/-- Put the hours of a row's part of a write into the row. Specification `SPEC_FULL.md:130`. -/
def applyPlan (s : Sheet) (p : RowPlan) : Sheet :=
  { s with roster := s.roster.modifyHours p.row fun _ => p.hours }

/-- Put a value into cells. Specification `prepare`, `SPEC_FULL.md:128–132,138–140`. -/
def prepare (s : Sheet) (cells : List Cell) (value : Float) : PreparedWrite × Sheet :=
  let groups := groupCells cells
  let plans := groups.filterMap (s.plan? value)
  let skipped := (groups.map Prod.fst).filter fun row => (s.roster.find? row).isNone
  (⟨plans, skipped⟩, plans.foldl recompute (plans.foldl applyPlan s))

/-- Settle a row's part of a write. Specification `SPEC_FULL.md:135,144–145`. -/
def settlePlan (s : Sheet) (p : RowPlan) (outcome : RowOutcome) : Sheet :=
  ({ s with roster := s.roster.modifyHours p.row (p.settleHours outcome) } : Sheet).recompute p

end Sheet

/-- Count a row in a report. -/
def WriteReport.add (r : WriteReport) (row : RowKey) : RowOutcome → WriteReport
  | .committed _ => { r with committed := r.committed ++ [row] }
  | .failed reason => { r with failed := r.failed ++ [(row, reason)] }

/-- The outcome of a row in the answer to a batch; of several entries for a row the last counts.
Specification `SPEC_FULL.md:143`. -/
def outcomeIn (results : List RowResult) (p : RowPlan) : RowOutcome :=
  match results.reverse.find? fun r => r.assignment == p.row.assignment with
  | some r => if r.isOk then .committed none else .failed r.reason
  | none => .failed "no result returned"

/-- Send a write: a single row by itself, several rows in a batch, nothing for no row. A request
that fails is the outcome of each of its rows. Specification `dispatch`, `update_row_hours`,
`bulk_update_hours`, `SPEC_FULL.md:133–134,143–144`. -/
def PreparedWrite.send {σ : Type} (w : PreparedWrite) (b : Backend σ) (s : σ) : SentWrite × σ :=
  match w.plans with
  | [] => (⟨w, []⟩, s)
  | [p] =>
    match b.updateHours p.row.assignment p.hours s with
    | (.ok stored, s) => (⟨w, [.committed (some stored)]⟩, s)
    | (.error e, s) => (⟨w, [.failed e.message]⟩, s)
  | plans =>
    match b.updateMany (plans.map fun p => ⟨p.row.assignment, p.hours⟩) s with
    | (.ok results, s) => (⟨w, plans.map (outcomeIn results)⟩, s)
    | (.error e, s) => (⟨w, plans.map fun _ => .failed e.message⟩, s)

/-- The notice about rows that were refused. Operation `failure_message`, specification
`SPEC_FULL.md:135–136,256–257`. -/
def failureMessage (failed : Nat) : String :=
  let count := Decimal.intText failed
  let noun := if failed = 1 then "assignment" else "assignments"
  s!"Failed to update {count} {noun}"

/-- The events that a report gives rise to: one notice for all refused rows, and analyses out of
date when a row was taken. Specification `SPEC_FULL.md:135–137`. -/
def WriteReport.events (r : WriteReport) : List Event :=
  (if r.failed.isEmpty then [] else [.notice .error (failureMessage r.failed.length)]) ++
    (if r.committed.isEmpty then [] else [.analyticsInvalidated])

namespace SentWrite

/-- The rows of a write with their outcomes. -/
def settled (w : SentWrite) : List (RowPlan × RowOutcome) := w.prepared.plans.zip w.outcomes

/-- What became of the rows. -/
def report (w : SentWrite) : WriteReport :=
  w.settled.foldl (fun r e => r.add e.1.row e.2) { skipped := w.prepared.skipped }

/-- The held rows and totals after a write has been settled. Specification `settle`,
`SPEC_FULL.md:135,141–145`. -/
def settle (w : SentWrite) (s : Sheet) : Sheet :=
  w.settled.foldl (fun s e => s.settlePlan e.1 e.2) s

end SentWrite

end AssignmentGrid
