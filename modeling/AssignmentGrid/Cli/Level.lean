/-!
# Levels of logging

Messages about the course of a command go to the standard error stream. How many of them are shown
is said on the command line or, if nothing is said there, by the environment. Specification
`SPEC_FULL.md:276–279`.
-/

namespace AssignmentGrid.Cli

/-- How much is shown. Each level shows what the levels before it show. -/
inductive LogLevel where
  | off
  | error
  | warn
  | info
  | debug
  | trace
  deriving DecidableEq, Repr

namespace LogLevel

/-- The place of a level among the levels. -/
def rank : LogLevel → Nat
  | off => 0
  | error => 1
  | warn => 2
  | info => 3
  | debug => 4
  | trace => 5

/-- The name of a level, which stands in front of its messages. -/
def name : LogLevel → String
  | off => "OFF"
  | error => "ERROR"
  | warn => "WARN"
  | info => "INFO"
  | debug => "DEBUG"
  | trace => "TRACE"

/-- Whether messages of a level are shown. -/
def admits (limit message : LogLevel) : Bool := message.rank ≤ limit.rank

/-- The level that a word of the environment stands for. -/
def ofWord? : String → Option LogLevel
  | "off" => some off
  | "error" => some error
  | "warn" => some warn
  | "info" => some info
  | "debug" => some debug
  | "trace" => some trace
  | _ => none

/-- The level that a number of requests for more stands for. -/
def ofVerbosity? : Nat → Option LogLevel
  | 0 => none
  | 1 => some info
  | 2 => some debug
  | _ => some trace

/-- The level of a run: requests for more come before the word of the environment, and without
either warnings and errors are shown. Specification `SPEC_FULL.md:278–279`. -/
def choose (verbosity : Nat) (word? : Option String) : LogLevel :=
  (ofVerbosity? verbosity <|> word?.bind ofWord?).getD warn

/-- A message as it is shown. -/
def line (level : LogLevel) (message : String) : String := s!"[{level.name}] {message}"

end LogLevel

end AssignmentGrid.Cli
