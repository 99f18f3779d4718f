import AssignmentGrid.Cli.Failure
import AssignmentGrid.Cli.Level
import AssignmentGrid.Grid.Load
import AssignmentGrid.Http.Client
import AssignmentGrid.Settings

/-!
# Sessions

A command runs in a session, which holds the grid, the connection to the backend, the stored token
and what has been printed. A command that fails leaves the session as it was when it failed, so that
nothing printed or sent before is lost. Specification `SPEC_FULL.md:38,318–319`.
-/

namespace AssignmentGrid.Cli

open Http (Connection)

/-- A file and its permissions. -/
structure StoredFile where
  text : String
  mode : Nat
  deriving DecidableEq, Repr

/-- What stays the same while a command runs. -/
structure Context (τ : Type) where
  transport : Http.Transport τ
  settings : Settings
  logLevel : LogLevel
  /-- The address of the backend that the user has named. -/
  apiBase? : Option String := none
  /-- The token that the environment or the user at the terminal provides. -/
  token? : Option String := none

/-- What changes while a command runs. -/
structure Session (τ : Type) where
  connection : Connection τ
  /-- The file with the stored token. -/
  auth? : Option StoredFile := none
  grid : Grid := {}
  /-- What was printed to the standard output. -/
  out : String := ""
  /-- What was printed to the standard error stream. -/
  err : String := ""

/-- A part of a command. -/
abbrev Run (τ α : Type) := ReaderT (Context τ) (ExceptT Failure (StateM (Session τ))) α

namespace Run

variable {τ α : Type}

/-- Write to the standard error stream. -/
def tell (text : String) : Run τ Unit := modify fun s => { s with err := s.err ++ text }

/-- Write a line to the standard error stream. -/
def tellLine (line : String) : Run τ Unit := tell (line ++ "\n")

/-- Write a line to the standard output. -/
def printLine (line : String) : Run τ Unit :=
  modify fun s => { s with out := s.out ++ line ++ "\n" }

/-- Write a message to the standard error stream if its level is shown. -/
def log (level : LogLevel) (message : String) : Run τ Unit := do
  if (← read).logLevel.admits level then tellLine (level.line message)

/-- The grid. -/
def grid : Run τ Grid := do return (← get).grid

/-- Change the grid without the backend. -/
def modifyGrid (f : Grid → Grid) : Run τ Unit := modify fun s => { s with grid := f s.grid }

/-- Let an operation of the grid take place. -/
def call (operation : Grid → Connection τ → Reply (Connection τ) α) : Run τ α :=
  modifyGet fun s =>
    let reply := operation s.grid s.connection
    (reply.result, { s with grid := reply.grid, connection := reply.backend })

/-- An event as it is shown; only notices are. -/
def eventLine? : Event → Option String
  | .notice .info message => some message
  | .notice .warning message => some s!"warning: {message}"
  | .notice .error message => some s!"error: {message}"
  | .analyticsInvalidated | .progress _ _ | .loaded _ _ => none

/-- Take the events out of the grid and show them. -/
def showEvents : Run τ Unit := do
  let (events, g) := (← grid).drain
  modifyGrid fun _ => g
  (events.filterMap eventLine?).forM tellLine

/-- A failure of the grid ends the command. -/
def orFail : Except GridError α → Run τ α
  | .ok value => return value
  | .error e => throw (.ofGrid e)

/-- Let an operation of the grid take place and show what it has to say; if it fails, the command
ends. -/
def perform (operation : Grid → Connection τ → Reply (Connection τ) (Except GridError α)) :
    Run τ α := do
  let result ← call operation
  showEvents
  orFail result

end Run

end AssignmentGrid.Cli
