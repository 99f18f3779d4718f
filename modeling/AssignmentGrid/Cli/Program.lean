import AssignmentGrid.Cli.Loading
import AssignmentGrid.Grid.Input
import AssignmentGrid.Grid.Report
import AssignmentGrid.Grid.Row

/-!
# The program

What each command does. A command that deals with the grid loads it anew, works on it as a user
would, by selecting, typing and committing, and prints what the grid has to say. Specification
`SPEC_FULL.md:227–228,311–321`.
-/

namespace AssignmentGrid.Cli

open Http (Connection)

variable {τ : Type}

/-- The failure for want of a token. -/
def noToken (message : String) : Failure :=
  (Failure.usage message).withHint "pass --token or set SGRID_API_TOKEN"

/-- The failure of a login. -/
def loginFailure (e : BackendError) : Failure :=
  match e with
  | .http 401 _ | .http 403 _ =>
    { code := ExitCode.notAuthenticated, message := "Invalid API token" }
  | e => .ofBackend e

/-- Store a token once the backend has said whose it is. Operation `cmd_login`, specification
`SPEC_FULL.md:227–228,312–313`. -/
def login (given? : Option String) : Run τ Unit := do
  let context ← read
  match given? <|> context.token? with
  | none => throw (noToken "No token provided and stdin is not a TTY")
  | some token =>
    if token.isEmpty then throw (noToken "No token provided")
    let stored := Credentials.ofToken token (context.apiBase?.getD context.settings.apiBase)
    let session ← get
    let (answer, connection) :=
      (Http.Client.ofCredentials stored).verifyToken context.transport session.connection
    set { session with connection }
    match answer with
    | .error e => throw (loginFailure e)
    | .ok user =>
      let text := String.ofList { stored with email? := some user.email }.text
      modify fun s => { s with auth? := some ⟨text, Credentials.fileMode⟩ }
      match user.name? with
      | some name => Run.tellLine s!"Authenticated as {name} ({user.email})"
      | none => Run.tellLine s!"Authenticated as {user.email}"

/-- Forget the stored token. Operation `cmd_logout`, specification `SPEC_FULL.md:314`. -/
def logout : Run τ Unit := do
  modify fun s => { s with auth? := none }
  Run.tellLine "Logged out"

/-- Tell when the rows cannot be limited to certain statuses. -/
def tellFilter (g : Grid) : Run τ Unit :=
  match g.filter.apply g.projects g.roster with
  | .ok _ => return
  | .error u =>
    let cause := GridError.derived u.message
    Run.log .warn s!"Status filter failed, showing all rows: {cause.message}"

/-- Print the grid, as a table or as JSON. -/
def printGrid (json : Bool) : Run τ Unit := do
  let g ← Run.grid
  tellFilter g
  let text := if json then g.toJson.pretty else g.table
  Run.printLine (String.ofList (Text.trimEnd text))

/-- Fetch the rows of people whose rows are not loaded. -/
def expandCollapsed (b : Backend (Connection τ)) : Run τ Unit := do
  let collapsed := (← Run.grid).roster.people.filter fun p => !p.isLoaded
  collapsed.forM fun p => discard (Run.perform fun g s => g.expand b p.id s)

/-- Have a row in the grid; if it is not there yet, the rows of its person are fetched. Operation
`ensure_row`, specification `SPEC_FULL.md:317–319`. -/
def ensureRow (b : Backend (Connection τ)) (row : RowKey) : Run τ Unit := do
  if ((← Run.grid).roster.find? row).isNone then
    discard (Run.perform fun g s => g.expand b row.person s)
    if ((← Run.grid).roster.find? row).isNone then
      let assignment := Decimal.intText row.assignment.toInt
      let person := Decimal.intText row.person.toInt
      throw (.ofGrid (.notFound s!"assignment {assignment} of person {person}"))

/-- What is said about a week that is not on the axis. -/
def axisHint (axis : WeekAxis) : String :=
  match axis.keys.head?, axis.keys.getLast? with
  | some first, some last => s!"loaded weeks run {first.text} to {last.text}; widen with --weeks"
  | _, _ => "the loaded grid has no weeks"

/-- The week of the axis that a date names. Operation `parse_week`, specification
`SPEC_FULL.md:298–299`. -/
def readWeek (axis : WeekAxis) (raw : String) : Except Failure WeekKey :=
  match Calendar.Date.read (Text.trim raw.toList) with
  | none => .error (.usage s!"Invalid week '{raw}' (expected YYYY-MM-DD)")
  | some date =>
    let week : WeekKey := ⟨String.ofList date.write⟩
    if axis.contains week then .ok week
    else .error ((Failure.usage s!"Week {week.text} is not on the grid").withHint (axisHint axis))

/-- Tell which rows were not written, and why. -/
def tellReport (r : WriteReport) : Run τ Unit := do
  r.skipped.forM fun row =>
    let assignment := Decimal.intText row.assignment.toInt
    let person := Decimal.intText row.person.toInt
    Run.log .warn s!"Skipping write for missing assignment {assignment} (person {person})"
  r.failed.forM fun (row, reason) =>
    let assignment := Decimal.intText row.assignment.toInt
    Run.log .warn s!"Write to assignment {assignment} failed: {reason}"

/-- A write of which a part failed, or which had no effect, is a failure of the command. Operation
`check_report`, specification `SPEC_FULL.md:319–321`, where a write that is refused as a whole has
the code 42. -/
def checkReport : Option WriteReport → Except Failure Unit
  | none => .error (.general "nothing to commit")
  | some r =>
    if !r.isSuccess then .error { code := ExitCode.rowsFailed, message := "" }
    else if r.committed.isEmpty then .error (.ofGrid (.notFound "no matching assignment row"))
    else .ok ()

/-- Open an edit on what is selected, type hours and commit them. -/
def typeHours (b : Backend (Connection τ)) (hours : String) : Run τ Unit := do
  Run.modifyGrid fun g => g.startEdit.2.setText hours
  let result ← Run.call fun g s => g.commit b s
  match result with
  | .ok (some report) => tellReport report
  | _ => pure ()
  Run.showEvents
  liftM (checkReport (← Run.orFail result))

/-- Set the hours of a cell. Operation `cmd_set`, specification `SPEC_FULL.md:315,317–319`. -/
def setHours (b : Backend (Connection τ)) (row : RowKey) (week hours : String) : Run τ Unit := do
  let cell : Cell := ⟨row, ← liftM (readWeek (← Run.grid).axis week)⟩
  ensureRow b row
  Run.modifyGrid fun g => g.select cell false
  typeHours b hours
  let shown := String.ofList (Hours.text ((← Run.grid).hours cell))
  let assignment := Decimal.intText row.assignment.toInt
  Run.tellLine s!"{assignment} {cell.week.text} = {shown}"

/-- Set the hours of a row from one week to another. Operation `cmd_fill`, specification
`SPEC_FULL.md:315,317–319`. -/
def fillHours (b : Backend (Connection τ)) (row : RowKey) (first last hours : String) :
    Run τ Unit := do
  let axis := (← Run.grid).axis
  let start : Cell := ⟨row, ← liftM (readWeek axis first)⟩
  let stop : Cell := ⟨row, ← liftM (readWeek axis last)⟩
  ensureRow b row
  Run.modifyGrid fun g => ((g.beginDrag start).dragTo stop).endDrag
  let cells := (← Run.grid).selection.cells
  typeHours b hours
  let g ← Run.grid
  let shown := String.ofList (Hours.text ((cells.head?.map g.hours).getD 0))
  let count := Decimal.intText cells.length
  let assignment := Decimal.intText row.assignment.toInt
  Run.tellLine s!"{count} weeks of assignment {assignment} = {shown}"

/-- Put a person on a project and print the number of the assignment. Operation `cmd_assign`,
specification `SPEC_FULL.md:316`. -/
def assign (b : Backend (Connection τ)) (person : PersonId) (project : ProjectId) : Run τ Unit := do
  let id ← Run.perform fun g s => g.assign b person project s
  Run.printLine (Decimal.intText id.toInt)

/-- Delete an assignment. If it is not in the grid, all rows are fetched first. Operation
`cmd_unassign`, specification `SPEC_FULL.md:316`. -/
def unassign (b : Backend (Connection τ)) (id : AssignmentId) : Run τ Unit := do
  if ((← Run.grid).roster.ownerOf? id).isNone then expandCollapsed b
  let shown := Decimal.intText id.toInt
  if ((← Run.grid).roster.ownerOf? id).isNone then
    Run.log .warn s!"Remove requested for unknown assignment {shown}"
  Run.perform fun g s => g.unassign b id s
  Run.tellLine s!"Removed assignment {shown}"

/-- Fetch the rows of people, once more if that is asked for, and print the grid. Operation
`cmd_expand`, specification `SPEC_FULL.md:314`. -/
def expand (b : Backend (Connection τ)) (people : List PersonId) (refresh : Bool) : Run τ Unit := do
  people.forM fun p =>
    if refresh then Run.perform fun g s => g.refresh b p s
    else discard (Run.perform fun g s => g.expand b p s)
  printGrid false

/-- Print the grid with the rows of projects of certain statuses; without any, with all rows.
Operation `cmd_show`, specification `SPEC_FULL.md:314`. -/
def view (statuses : List String) (json : Bool) : Run τ Unit := do
  unless statuses.isEmpty do Run.modifyGrid fun g => g.setFilter (.only statuses)
  printGrid json

/-- Connect, load the grid and go on. -/
def onGrid (limits : LoadLimits) (next : Backend (Connection τ) → Run τ Unit) : Run τ Unit := do
  let b := (← connect).backend (← read).transport
  loadGrid b limits
  next b

/-- What a command does. -/
def Command.run : Command → Run τ Unit
  | .login token? => Cli.login token?
  | .logout => Cli.logout
  | .view limits statuses json => onGrid limits fun _ => Cli.view statuses json
  | .expand limits people refresh => onGrid limits fun b => Cli.expand b people refresh
  | .setHours limits row week hours => onGrid limits fun b => Cli.setHours b row week hours
  | .fillHours limits row first last hours =>
    onGrid limits fun b => Cli.fillHours b row first last hours
  | .assign limits person project => onGrid limits fun b => Cli.assign b person project
  | .unassign limits id => onGrid limits fun b => Cli.unassign b id

/-- What a run of the program finds. -/
structure Surroundings where
  /-- The value of `SGRID_API_TOKEN`. -/
  token? : Option String := none
  /-- The value of `SGRID_API_BASE`. -/
  apiBase? : Option String := none
  /-- The value of `SGRID_LOG`. -/
  logWord? : Option String := none
  /-- The text of the settings file. -/
  settings? : Option String := none
  /-- The file with the stored token. -/
  auth? : Option StoredFile := none
  /-- The configuration directory, as it is named in messages. -/
  directory : String := "."
  deriving DecidableEq, Repr

/-- What a run of the program leaves. -/
structure Ended (τ : Type) where
  result : Except Failure Unit
  out : String
  err : String
  logLevel : LogLevel
  /-- The file with the stored token. -/
  auth? : Option StoredFile
  /-- The text for a settings file, if there was none. -/
  settings? : Option String
  network : τ

/-- The exit code of a run. -/
def Ended.code (e : Ended τ) : UInt8 :=
  match e.result with
  | .ok _ => ExitCode.success
  | .error f => f.code

/-- What is printed about the end of a run. -/
def Ended.closingLines (e : Ended τ) : List String :=
  match e.result with
  | .ok _ => []
  | .error f => f.lines

namespace Surroundings

/-- Why the settings file cannot be read, if that is so. -/
def settingsFault? (w : Surroundings) : Option Json.DecodeError :=
  w.settings?.bind fun text =>
    match Settings.ofText text.toList with
    | .ok _ => none
    | .error e => some e

/-- The settings of a run. -/
def settings (w : Surroundings) : Settings :=
  match w.settings? with
  | some text => .load text.toList
  | none => .standard

/-- What does not change in a run. -/
def context (w : Surroundings) (i : Invocation) (t : Http.Transport τ) : Context τ where
  transport := t
  settings := w.settings
  logLevel := .choose i.verbosity w.logWord?
  apiBase? := i.apiBase? <|> w.apiBase?
  token? := w.token?

end Surroundings

/-- Whether a command needs a token that its arguments do not give. -/
def Command.wantsToken : Command → Bool
  | .login none => true
  | _ => false

/-- Tell of a settings file that cannot be read. -/
def Surroundings.tellFault (w : Surroundings) : Run τ Unit :=
  match w.settingsFault? with
  | some e =>
    let path := s!"{w.directory}/{Settings.fileName}"
    Run.log .warn s!"Error parsing {path}: {e.message} (using defaults)"
  | none => return

/-- Tell of a settings file that cannot be read, and do what the command does. -/
def Invocation.body (i : Invocation) (w : Surroundings) : Run τ Unit := do
  w.tellFault
  i.command.run

/-- The session in which a run begins. -/
def Surroundings.begin (w : Surroundings) (network : τ) : Session τ where
  connection := { network }
  auth? := w.auth?

/-- Run the program. -/
def Invocation.run (i : Invocation) (w : Surroundings) (t : Http.Transport τ) (network : τ) :
    Ended τ :=
  let context := w.context i t
  let (result, s) := ((i.body w).run context).run.run (w.begin network)
  { result
    out := s.out
    err := s.err
    logLevel := context.logLevel
    auth? := s.auth?
    settings? := if w.settings?.isSome then none else some (String.ofList Settings.firstText)
    network := s.connection.network }

end AssignmentGrid.Cli
