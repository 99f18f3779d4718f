/-!
# Errors of the backend

A call to the backend fails for one of these causes. What the server said is passed on as it is.
Specification `BackendError`, `SPEC_FULL.md:223–224,242–243`.
-/

namespace AssignmentGrid

/-- Why a call to the backend failed. Specification `BackendError`, `SPEC_FULL.md:242–243`. -/
inductive BackendError where
  /-- There are no credentials. -/
  | notAuthenticated
  /-- The server was not reached. -/
  | network (message : String)
  /-- The server answered with an error status. -/
  | http (status : UInt16) (message : String)
  /-- The server refused what was sent. -/
  | validation (message : String)
  /-- There is no such thing on the server. -/
  | notFound (message : String)
  /-- The answer is not what it should be. -/
  | parse (message : String)
  /-- A job took too long. -/
  | timeout (message : String)
  /-- A file could not be read or written. -/
  | io (message : String)
  deriving DecidableEq, Repr

/-- The wording of a failure. -/
def BackendError.message : BackendError → String
  | notAuthenticated => "Not authenticated — run `sgrid login` first"
  | network m => s!"Network error: {m}"
  | http status m => s!"HTTP {status.toNat}: {m}"
  | validation m => m
  | notFound m => s!"Not found: {m}"
  | parse m => s!"Parse error: {m}"
  | timeout m => s!"Timeout: {m}"
  | io m => s!"I/O error: {m}"

end AssignmentGrid
