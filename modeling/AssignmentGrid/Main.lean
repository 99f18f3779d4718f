import AssignmentGrid.Cli.Program
import AssignmentGrid.Cli.Usage

/-!
# The command line program

Reads what a run finds around it, lets it take place, and writes down what it leaves. The program
comes without a network of its own, so that every request to a backend stays without an answer.
Specification `SPEC_FULL.md:38,311`.
-/

namespace AssignmentGrid.Cli

/-- A network that brings no answer. -/
def offline : Http.Transport Unit where
  send _ s := (none, s)
  patience config _ := config.patience

/-- The text of a file, if it can be read. -/
def readFile? (path : String) : IO (Option String) := do
  try
    return some (← IO.FS.readFile path)
  catch _ =>
    return none

/-- The directory in which the program keeps its files. -/
def configDirectory : IO String := do
  match ← IO.getEnv "XDG_CONFIG_HOME", ← IO.getEnv "HOME" with
  | some directory, home =>
    if directory.startsWith "/" then return directory
    else return (home.map (· ++ "/.config")).getD "."
  | none, some home => return home ++ "/.config"
  | none, none => return "."

/-- The token that the environment provides or, if a command wants one, the user at the
terminal. -/
def findToken? (command : Command) : IO (Option String) := do
  let token? ← IO.getEnv "SGRID_API_TOKEN"
  let input ← IO.getStdin
  if token?.isNone && command.wantsToken && (← input.isTty) then
    IO.eprint "API token: "
    return some (String.ofList (Text.trim (← input.getLine).toList))
  else return token?

/-- What a run finds. -/
def findSurroundings (command : Command) : IO Surroundings := do
  let directory ← configDirectory
  return {
    token? := ← findToken? command
    apiBase? := ← IO.getEnv "SGRID_API_BASE"
    logWord? := ← IO.getEnv "SGRID_LOG"
    settings? := ← readFile? s!"{directory}/{Settings.fileName}"
    auth? := (← readFile? s!"{directory}/{Credentials.fileName}").map (⟨·, Credentials.fileMode⟩)
    directory }

/-- Write down what a run has left in place of what it found. -/
def keepFiles (found : Surroundings) (ended : Ended Unit) : IO Unit := do
  let settings := s!"{found.directory}/{Settings.fileName}"
  let auth := s!"{found.directory}/{Credentials.fileName}"
  IO.FS.createDirAll s!"{found.directory}/staffgrid"
  if let some text := ended.settings? then IO.FS.writeFile settings text
  if ended.auth? != found.auth? then
    match ended.auth? with
    | none => IO.FS.removeFile auth
    | some file =>
      IO.FS.writeFile auth file.text
      IO.setAccessRights auth { user := { read := true, write := true } }

/-- Run what the arguments say. -/
def runInvocation (invocation : Invocation) : IO UInt32 := do
  let found ← findSurroundings invocation.command
  let ended := invocation.run found offline ()
  IO.print ended.out
  IO.eprint ended.err
  ended.closingLines.forM IO.eprintln
  keepFiles found ended
  return ended.code.toUInt32

end AssignmentGrid.Cli

/-- The program. -/
def main (args : List String) : IO UInt32 := do
  match AssignmentGrid.Cli.Invocation.ofArguments args with
  | .ok invocation => AssignmentGrid.Cli.runInvocation invocation
  | .error stop =>
    if stop.code = 0 then stop.lines.forM IO.println else stop.lines.forM IO.eprintln
    return stop.code.toUInt32
