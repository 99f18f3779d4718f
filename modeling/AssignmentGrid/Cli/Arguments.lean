import AssignmentGrid.Assignment
import AssignmentGrid.Backend.Scope
import AssignmentGrid.Decimal.Integer

/-!
# Arguments

The arguments of the program name a command, with general options before or after the command's name
and the command's own options and operands after it. They are read one by one from the left, and the
first one that cannot be taken ends the reading, as a request for help does. An option has a long
name behind two hyphens and some have a letter behind one; a value follows its option, as the next
argument or attached to it. Behind two hyphens that stand alone there are only operands.
Specification `SPEC_FULL.md:311–317`.
-/

namespace AssignmentGrid.Cli

/-- Why there is nothing to run. -/
inductive Stop where
  | help
  | version
  /-- The arguments make no sense. -/
  | misuse
  deriving DecidableEq, Repr

/-- The exit code when there is nothing to run. -/
def Stop.code : Stop → UInt8
  | help | version => 0
  | misuse => 2

/-- An option. -/
inductive Opt where
  | help
  | version
  | verbose
  | apiBase
  | token
  | weeks
  | department
  | includeChildren
  | status
  | json
  | refresh
  deriving DecidableEq, Repr

namespace Opt

/-- The long name of an option. -/
def long : Opt → String
  | help => "help"
  | version => "version"
  | verbose => "verbose"
  | apiBase => "api-base"
  | token => "token"
  | weeks => "weeks"
  | department => "department"
  | includeChildren => "include-children"
  | status => "status"
  | json => "json"
  | refresh => "refresh"

/-- The letter of an option. -/
def letter? : Opt → Option Char
  | help => some 'h'
  | version => some 'V'
  | verbose => some 'v'
  | weeks => some 'w'
  | _ => none

/-- Whether a value follows an option. -/
def takesValue : Opt → Bool
  | apiBase | token | weeks | department | status => true
  | help | version | verbose | includeChildren | json | refresh => false

end Opt

/-- The name of a command. -/
inductive CommandName where
  | login
  | logout
  | view
  | expand
  | setHours
  | fillHours
  | assign
  | unassign
  deriving DecidableEq, Repr

namespace CommandName

/-- The word for a command. -/
def word : CommandName → String
  | login => "login"
  | logout => "logout"
  | view => "show"
  | expand => "expand"
  | setHours => "set"
  | fillHours => "fill"
  | assign => "assign"
  | unassign => "unassign"

/-- All commands. -/
def all : List CommandName := [login, logout, view, expand, setHours, fillHours, assign, unassign]

/-- The command that goes by a word. -/
def ofWord? (s : String) : Option CommandName := all.find? fun c => c.word == s

/-- The options that limit a load. -/
def scopeOptions : List Opt := [.weeks, .department, .includeChildren]

/-- The options of a command. -/
def options : CommandName → List Opt
  | login => [.token]
  | logout => []
  | view => [.status, .json] ++ scopeOptions
  | expand => .refresh :: scopeOptions
  | setHours | fillHours | assign | unassign => scopeOptions

/-- The most numbers that a command takes as its first operands; `none` stands for no limit. -/
def numberLimit? : CommandName → Option Nat
  | login | logout | view => some 0
  | expand => none
  | setHours | fillHours | assign => some 2
  | unassign => some 1

/-- How many texts a command takes as its last operands. -/
def textCount : CommandName → Nat
  | setHours => 2
  | fillHours => 3
  | login | logout | view | expand | assign | unassign => 0

end CommandName

/-- The options that may stand in front of the name of a command, or else behind a certain
name. -/
def optionsOf : Option CommandName → List Opt
  | none => [.help, .verbose, .apiBase, .version]
  | some c => [.help, .verbose, .apiBase] ++ c.options

/-- What has been given on one side of the name of the command. -/
structure Given where
  verbosity : Nat := 0
  apiBase? : Option String := none
  token? : Option String := none
  weeks? : Option UInt32 := none
  department? : Option Int64 := none
  includeChildren : Bool := false
  statuses : List String := []
  json : Bool := false
  refresh : Bool := false
  numbers : List Int64 := []
  texts : List String := []
  deriving DecidableEq, Repr

namespace Given

/-- Set what has not been set. -/
def once {α : Type} (former? : Option α) (value? : Option α) : Except Stop (Option α) :=
  match former?, value? with
  | none, some value => .ok (some value)
  | _, _ => .error .misuse

/-- Turn on what has not been turned on. -/
def turnOn (former : Bool) : Except Stop Bool := if former then .error .misuse else .ok true

/-- Take an option without a value. -/
def takeFlag (g : Given) : Opt → Except Stop Given
  | .help => .error .help
  | .version => .error .version
  | .verbose => .ok { g with verbosity := g.verbosity + 1 }
  | .includeChildren => do return { g with includeChildren := ← turnOn g.includeChildren }
  | .json => do return { g with json := ← turnOn g.json }
  | .refresh => do return { g with refresh := ← turnOn g.refresh }
  | .apiBase | .token | .weeks | .department | .status => .error .misuse

/-- Take an option with its value. -/
def takeValue (g : Given) (o : Opt) (value : String) : Except Stop Given :=
  match o with
  | .apiBase => do return { g with apiBase? := ← once g.apiBase? (some value) }
  | .token => do return { g with token? := ← once g.token? (some value) }
  | .weeks => do
    let weeks? ← once g.weeks? (Decimal.readUInt32? value)
    return { g with weeks? }
  | .department => do
    let department? ← once g.department? (Decimal.readInt64? value)
    return { g with department? }
  | .status => .ok { g with statuses := g.statuses ++ [value] }
  | .help | .version | .verbose | .includeChildren | .json | .refresh => .error .misuse

/-- Take an operand of a command: first the numbers, then the texts. -/
def takeOperand (g : Given) (c : CommandName) (operand : String) : Except Stop Given :=
  if c.numberLimit?.all fun limit => g.numbers.length < limit then
    match Decimal.readInt64? operand with
    | some n => .ok { g with numbers := g.numbers ++ [n] }
    | none => .error .misuse
  else if g.texts.length < c.textCount then .ok { g with texts := g.texts ++ [operand] }
  else .error .misuse

end Given

/-- What has been read of the arguments. -/
structure Reading where
  /-- What was given in front of the name of the command. -/
  front : Given := {}
  /-- The command, with what was given behind its name. -/
  command? : Option (CommandName × Given) := none
  /-- The option whose value comes next. -/
  pending? : Option Opt := none
  /-- Whether there are only operands from here on. -/
  onlyOperands : Bool := false
  /-- The commands about which help was asked for by name. -/
  topics? : Option (List String) := none
  deriving DecidableEq, Repr

namespace Reading

/-- Change what was given on the side that is being read. -/
def modify (r : Reading) (f : Given → Except Stop Given) : Except Stop Reading :=
  match r.command? with
  | none => do return { r with front := ← f r.front }
  | some (c, g) => do return { r with command? := some (c, ← f g) }

/-- The option with a property, among those that may stand here. -/
def option? (r : Reading) (p : Opt → Bool) : Option Opt :=
  (optionsOf (r.command?.map Prod.fst)).find? p

/-- Take a long option; a value behind an equals sign is attached to it. -/
def takeLong (r : Reading) (cs : List Char) : Except Stop Reading :=
  let name := String.ofList (cs.takeWhile (· != '='))
  match r.option? fun o => o.long == name, cs.dropWhile (· != '=') with
  | none, _ => .error .misuse
  | some o, [] =>
    if o.takesValue then .ok { r with pending? := some o } else r.modify fun g => g.takeFlag o
  | some o, _ :: value =>
    if o.takesValue then r.modify fun g => g.takeValue o (String.ofList value) else .error .misuse

/-- Take letters behind one hyphen. What follows the letter of an option with a value is the
value, with or without an equals sign in front. -/
def takeLetters (r : Reading) : List Char → Except Stop Reading
  | [] => .ok r
  | c :: rest =>
    match r.option? fun o => o.letter? == some c with
    | none => .error .misuse
    | some o =>
      if o.takesValue then
        match rest with
        | [] => .ok { r with pending? := some o }
        | '=' :: value => r.modify fun g => g.takeValue o (String.ofList value)
        | value => r.modify fun g => g.takeValue o (String.ofList value)
      else do (← r.modify fun g => g.takeFlag o).takeLetters rest

/-- Take an argument that is no option: the name of the command or an operand of it. -/
def takeOperand (r : Reading) (arg : String) : Except Stop Reading :=
  match r.command? with
  | some (c, _) => r.modify fun g => g.takeOperand c arg
  | none =>
    if r.onlyOperands then .error .misuse
    else if arg = "help" then .ok { r with topics? := some [] }
    else match CommandName.ofWord? arg with
      | some c => .ok { r with command? := some (c, {}) }
      | none => .error .misuse

/-- Take an argument where an option may stand. -/
def takeArgument (r : Reading) (arg : String) : Except Stop Reading :=
  match arg.toList with
  | ['-'] => r.takeOperand arg
  | ['-', '-'] => .ok { r with onlyOperands := true }
  | '-' :: '-' :: cs => r.takeLong cs
  | '-' :: cs => r.takeLetters cs
  | _ => r.takeOperand arg

/-- Whether an argument can be the value of an option: it must not look like an option itself. -/
def isValue (arg : String) : Bool :=
  match arg.toList with
  | '-' :: _ :: _ => false
  | _ => true

/-- Take an argument. -/
def step (r : Reading) (arg : String) : Except Stop Reading :=
  match r.topics?, r.pending? with
  | some topics, _ => .ok { r with topics? := some (topics ++ [arg]) }
  | none, some o =>
    if isValue arg then { r with pending? := none }.modify fun g => g.takeValue o arg
    else .error .misuse
  | none, none => if r.onlyOperands then r.takeOperand arg else r.takeArgument arg

end Reading

/-- The weeks and the department to which a load is limited. Specification `SPEC_FULL.md:316–317`.
-/
structure LoadLimits where
  weeks? : Option UInt32 := none
  scope : Scope := {}
  deriving DecidableEq, Repr

/-- What the program is told to do. Specification `SPEC_FULL.md:312–316`. -/
inductive Command where
  /-- Store a token. -/
  | login (token? : Option String)
  /-- Forget the stored token. -/
  | logout
  /-- Print the grid with the rows of projects of certain statuses. -/
  | view (limits : LoadLimits) (statuses : List String) (json : Bool)
  /-- Print the grid with the rows of certain people. -/
  | expand (limits : LoadLimits) (people : List PersonId) (refresh : Bool)
  /-- Set the hours of a cell. -/
  | setHours (limits : LoadLimits) (row : RowKey) (week hours : String)
  /-- Set the hours of a row from one week to another. -/
  | fillHours (limits : LoadLimits) (row : RowKey) (first last hours : String)
  /-- Put a person on a project. -/
  | assign (limits : LoadLimits) (person : PersonId) (project : ProjectId)
  /-- Delete an assignment. -/
  | unassign (limits : LoadLimits) (assignment : AssignmentId)
  deriving DecidableEq, Repr

/-- The limits that were given. Departments below a department are included only with a department.
Specification `SPEC_FULL.md:316–317`. -/
def Given.limits (g : Given) : Except Stop LoadLimits :=
  if g.includeChildren && g.department?.isNone then .error .misuse
  else .ok ⟨g.weeks?, ⟨g.department?, g.includeChildren⟩⟩

/-- The command with what was given for it, if no operand is missing. -/
def Command.ofGiven (c : CommandName) (g : Given) : Except Stop Command := do
  let limits ← g.limits
  match c, g.numbers, g.texts with
  | .login, _, _ => return .login g.token?
  | .logout, _, _ => return .logout
  | .view, _, _ => return .view limits g.statuses g.json
  | .expand, p :: more, _ => return .expand limits (p :: more) g.refresh
  | .setHours, [p, a], [week, hours] => return .setHours limits ⟨p, a⟩ week hours
  | .fillHours, [p, a], [first, last, hours] => return .fillHours limits ⟨p, a⟩ first last hours
  | .assign, [p, q], _ => return .assign limits p q
  | .unassign, [a], _ => return .unassign limits a
  | _, _, _ => throw .misuse

/-- What a run is to do, and how. -/
structure Invocation where
  /-- How often more messages were asked for. -/
  verbosity : Nat := 0
  /-- The address of the backend, if the user names one. -/
  apiBase? : Option String := none
  command : Command
  deriving DecidableEq, Repr

/-- The answer to a request for help by name: there is help about the program, about each command
and about help itself. -/
def helpAbout : List String → Stop
  | [] => .help
  | [topic] => if topic = "help" ∨ (CommandName.ofWord? topic).isSome then .help else .misuse
  | _ => .misuse

namespace Invocation

/-- What the arguments that were read tell the program to do. What stands behind the name of the
command comes before what stands in front of it. -/
def ofReading (r : Reading) : Except Stop Invocation :=
  match r.topics?, r.pending?, r.command? with
  | some topics, _, _ => .error (helpAbout topics)
  | none, none, some (c, g) => do
    return {
      verbosity := if g.verbosity = 0 then r.front.verbosity else g.verbosity
      apiBase? := g.apiBase? <|> r.front.apiBase?
      command := ← Command.ofGiven c g }
  | none, _, _ => .error .misuse

/-- What arguments tell the program to do. -/
def ofArguments (args : List String) : Except Stop Invocation := do
  ofReading (← args.foldlM Reading.step {})

end Invocation

end AssignmentGrid.Cli
