import AssignmentGrid.Backend.Error
import AssignmentGrid.Selection

/-!
# Errors of the grid

An operation of the grid fails for one of these causes. A failed write or read carries the failure
of the backend that caused it. Specification `GridError`, `SPEC_FULL.md:234–250`.
-/

namespace AssignmentGrid

/-- Why an operation of the grid failed. Specification `GridError`, `SPEC_FULL.md:244–247`. -/
inductive GridError where
  /-- The selected range cannot be written to. -/
  | selection (cause : SelectionError)
  /-- The grid holds no such person or row. -/
  | notFound (what : String)
  /-- A row was not created, changed or deleted. -/
  | remoteWrite (cause : BackendError)
  /-- The rows of a person were not read. -/
  | fetch (cause : BackendError)
  /-- No way led to a snapshot. -/
  | snapshotAcquisition (message : String)
  /-- Something was not computed. -/
  | derived (message : String)
  deriving DecidableEq, Repr

namespace GridError

/-- The wording of a failure. -/
def message : GridError → String
  | selection e => e.message
  | notFound what => s!"Not found: {what}"
  | remoteWrite e => s!"Save failed: {e.message}"
  | fetch e => s!"Load failed: {e.message}"
  | snapshotAcquisition m => s!"Could not load assignments: {m}"
  | derived m => s!"Computation failed: {m}"

/-- The wording of the cause of a failure. -/
def source? : GridError → Option String
  | selection e => some e.message
  | remoteWrite e | fetch e => some e.message
  | notFound _ | snapshotAcquisition _ | derived _ => none

end GridError

end AssignmentGrid
