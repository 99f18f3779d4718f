import AssignmentGrid.GridError

/-!
# Failures of a command

A command that fails ends with a code on which scripts rely, a message and sometimes a hint. Codes
up to 2 are common to all programs; those from 40 on tell what went wrong with the backend.
Specification `CliError`, `SPEC_FULL.md:281–284,319–321`.
-/

namespace AssignmentGrid.Cli

/-- How a command fails. An empty message is not shown. Specification `CliError`,
`SPEC_FULL.md:283–284`. -/
structure Failure where
  code : UInt8
  message : String
  hint? : Option String := none
  deriving DecidableEq, Repr

namespace ExitCode

/-- The command has done what it should. -/
def success : UInt8 := 0

/-- Some other error. -/
def general : UInt8 := 1

/-- Bad arguments, a week that is not on the grid, or a selection that cannot be written to. -/
def usage : UInt8 := 2

/-- There are no credentials, or the token was refused. -/
def notAuthenticated : UInt8 := 40

/-- The server was not reached in time. -/
def network : UInt8 := 41

/-- The server refused the request. -/
def rejected : UInt8 := 42

/-- There is no such person, assignment or job. -/
def notFound : UInt8 := 43

/-- No way led to a snapshot. -/
def loadFailed : UInt8 := 44

/-- Some rows of a write failed and have their former hours again. -/
def rowsFailed : UInt8 := 45

end ExitCode

/-- The code for a failure of the backend. Operation `backend_exit_code`, specification
`SPEC_FULL.md:319–321`. -/
def backendCode : BackendError → UInt8
  | .notAuthenticated => ExitCode.notAuthenticated
  | .http status _ =>
    if status = 401 ∨ status = 403 then ExitCode.notAuthenticated else ExitCode.rejected
  | .network _ | .timeout _ => ExitCode.network
  | .validation _ => ExitCode.rejected
  | .notFound _ => ExitCode.notFound
  | .parse _ | .io _ => ExitCode.general

/-- The code for a failure of the grid. Operation `grid_exit_code`, specification
`SPEC_FULL.md:319–321`. -/
def gridCode : GridError → UInt8
  | .selection _ => ExitCode.usage
  | .notFound _ => ExitCode.notFound
  | .remoteWrite e | .fetch e => backendCode e
  | .snapshotAcquisition _ => ExitCode.loadFailed
  | .derived _ => ExitCode.general

namespace Failure

/-- Bad arguments. -/
def usage (message : String) : Failure := { code := ExitCode.usage, message }

/-- Some other error. -/
def general (message : String) : Failure := { code := ExitCode.general, message }

/-- A failure of the backend. -/
def ofBackend (e : BackendError) : Failure where
  code := backendCode e
  message := e.message
  hint? := match e with
    | .notAuthenticated | .http 401 _ => some "run `sgrid login` to store a valid token"
    | .network _ => some "check --api-base or `api.base` in settings.json"
    | _ => none

/-- A failure of the grid. -/
def ofGrid (e : GridError) : Failure where
  code := gridCode e
  message := e.message
  hint? := match e with
    | .snapshotAcquisition _ => some "retry, or narrow with --department/--weeks"
    | _ => none

/-- A failure with a hint. -/
def withHint (f : Failure) (hint : String) : Failure := { f with hint? := some hint }

/-- What is printed about a failure, line by line. -/
def lines (f : Failure) : List String :=
  (if f.message.isEmpty then [] else [s!"error: {f.message}"]) ++
    f.hint?.toList.map fun hint => s!"hint:  {hint}"

end Failure

end AssignmentGrid.Cli
