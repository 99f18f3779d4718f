import AssignmentGrid.Cli.Arguments

/-!
# Usage

What is printed when there is nothing to run.
-/

namespace AssignmentGrid.Cli

/-- The version of the program. -/
def versionLine : String := "sgrid 0.4.0"

/-- How an option is written. -/
def Opt.usage (o : Opt) : String :=
  let letter := match o.letter? with
    | some c => "-" ++ String.singleton c ++ ", "
    | none => ""
  let value := if o.takesValue then " <VALUE>" else ""
  s!"{letter}--{o.long}{value}"

/-- The operands of a command. -/
def CommandName.operands : CommandName → List String
  | login | logout | view => []
  | expand => ["<PEOPLE>..."]
  | setHours => ["<PERSON>", "<ASSIGNMENT>", "<WEEK>", "<HOURS>"]
  | fillHours => ["<PERSON>", "<ASSIGNMENT>", "<FROM>", "<TO>", "<HOURS>"]
  | assign => ["<PERSON>", "<PROJECT>"]
  | unassign => ["<ASSIGNMENT>"]

/-- How a command is written, with its own options. -/
def CommandName.usage (c : CommandName) : String :=
  let options := c.options.map fun o => "[" ++ o.usage ++ "]"
  String.intercalate " " ("sgrid" :: c.word :: options ++ c.operands)

/-- What is printed about the use of the program. -/
def usageLines : List String :=
  ["Staffing assignment grid (headless)", "", "Commands:"] ++
    CommandName.all.map (fun c => "  " ++ c.usage) ++
    ["", "Options:"] ++ (optionsOf none).map fun o => "  " ++ o.usage

/-- What is printed when there is nothing to run. -/
def Stop.lines : Stop → List String
  | help => usageLines
  | version => [versionLine]
  | misuse => "error: the arguments make no sense" :: "" :: usageLines

end AssignmentGrid.Cli
