import AssignmentGrid.Json.Offence
import AssignmentGrid.Json.Printer
import AssignmentGrid.Load.Request
import AssignmentGrid.Hours
import AssignmentGrid.Text.Line

/-!
# Settings

The settings of a user, kept in a JSON file in which lines that hold only a comment are allowed.
What the file does not set has its default. A file that cannot be read gives the defaults
altogether. Specification `Settings`, `SPEC_FULL.md:286–295`.
-/

namespace AssignmentGrid

/-- The settings of a user. Specification `Settings`, `SPEC_FULL.md:287,291–294`. -/
structure Settings where
  /-- The cap of a cell. -/
  hoursCap : Float := 168
  /-- The number of weeks that are loaded unless another one is asked for. -/
  defaultWeeks : UInt32 := 12
  /-- Loads of more weeks go through a job. -/
  weekThreshold : UInt32 := 20
  /-- Loads of more people go through a job. -/
  peopleThreshold : UInt64 := 400
  /-- Milliseconds between two polls of a job. -/
  pollInterval : UInt64 := 1500
  /-- Seconds after which a job counts as failed. -/
  pollTimeout : UInt64 := 300
  /-- The address of the backend. -/
  apiBase : String := "http://localhost:8000"
  /-- Seconds after which a request counts as failed. -/
  apiTimeout : UInt64 := 60
  deriving DecidableEq, Repr

namespace Settings

/-- The settings without any file. -/
def standard : Settings := {}

/-- The member for the cap. -/
def hoursCapMember : Json.Member Float := .defaulted "grid.hoursCap" Json.toFloat standard.hoursCap

/-- The member for the number of weeks. -/
def defaultWeeksMember : Json.Member UInt32 :=
  .defaulted "grid.defaultWeeks" Json.toUInt32 standard.defaultWeeks

/-- The member for the threshold of weeks. -/
def weekThresholdMember : Json.Member UInt32 :=
  .defaulted "loader.asyncWeekThreshold" Json.toUInt32 standard.weekThreshold

/-- The member for the threshold of people. -/
def peopleThresholdMember : Json.Member UInt64 :=
  .defaulted "loader.asyncPeopleThreshold" Json.toUInt64 standard.peopleThreshold

/-- The member for the time between polls. -/
def pollIntervalMember : Json.Member UInt64 :=
  .defaulted "loader.pollIntervalMs" Json.toUInt64 standard.pollInterval

/-- The member for the time for which a job is waited for. -/
def pollTimeoutMember : Json.Member UInt64 :=
  .defaulted "loader.pollTimeoutSecs" Json.toUInt64 standard.pollTimeout

/-- The member for the address. -/
def apiBaseMember : Json.Member String := .defaulted "api.base" Json.toText standard.apiBase

/-- The member for the time for which an answer is waited for. -/
def apiTimeoutMember : Json.Member UInt64 :=
  .defaulted "api.timeoutSecs" Json.toUInt64 standard.apiTimeout

/-- The members in the order of declaration. -/
def fields : List Json.Field :=
  [hoursCapMember.field, defaultWeeksMember.field, weekThresholdMember.field,
    peopleThresholdMember.field, pollIntervalMember.field, pollTimeoutMember.field,
    apiBaseMember.field, apiTimeoutMember.field]

/-- What the record of the settings is called in a refusal. -/
def title : String := "struct Settings"

/-- Settings from a JSON value. -/
def ofJson (j : Json) : Json.Decoded Settings := do
  let members ← j.toMembers title fields
  return {
    hoursCap := ← hoursCapMember.get members
    defaultWeeks := ← defaultWeeksMember.get members
    weekThreshold := ← weekThresholdMember.get members
    peopleThreshold := ← peopleThresholdMember.get members
    pollInterval := ← pollIntervalMember.get members
    pollTimeout := ← pollTimeoutMember.get members
    apiBase := ← apiBaseMember.get members
    apiTimeout := ← apiTimeoutMember.get members }

/-- Settings as a JSON value. -/
def toJson (s : Settings) : Json :=
  .object [("grid.hoursCap", .ofFloat s.hoursCap),
    ("grid.defaultWeeks", .ofUInt64 s.defaultWeeks.toUInt64),
    ("loader.asyncWeekThreshold", .ofUInt64 s.weekThreshold.toUInt64),
    ("loader.asyncPeopleThreshold", .ofUInt64 s.peopleThreshold),
    ("loader.pollIntervalMs", .ofUInt64 s.pollInterval),
    ("loader.pollTimeoutSecs", .ofUInt64 s.pollTimeout),
    ("api.base", .string s.apiBase), ("api.timeoutSecs", .ofUInt64 s.apiTimeout)]

/-- Settings from a text without comments. A refusal says where in the text its cause lies. -/
def ofPlainText (cs : List Char) : Json.Decoded Settings :=
  match Json.parseRecord fields cs >>= ofJson with
  | .ok s => .ok s
  | .error cause => .error (Json.locate title fields cs cause)

/-- Settings from the text of a file. Operation `parse`, specification `SPEC_FULL.md:288–289`. -/
def ofText (cs : List Char) : Json.Decoded Settings := ofPlainText (Text.dropComments cs)

/-- The text that is saved for settings. -/
def text (s : Settings) : List Char := s.toJson.pretty

/-- The settings that a file gives; the defaults if it cannot be read. Operation `load_from`,
specification `SPEC_FULL.md:289–290`. -/
def load (cs : List Char) : Settings :=
  match ofText cs with
  | .ok s => s
  | .error _ => standard

/-- What the settings say about loads. Operation `loader_config`, specification
`SPEC_FULL.md:290–291`. -/
def loadConfig (s : Settings) : LoadConfig where
  weekThreshold := s.weekThreshold
  peopleThreshold := s.peopleThreshold
  pollInterval := s.pollInterval
  pollTimeout := s.pollTimeout

/-- The cap of a cell; a cap that is not positive stands for the default. Operation
`effective_hours_cap`, specification `SPEC_FULL.md:290–291`. -/
def effectiveCap (s : Settings) : Float :=
  if s.hoursCap.isFinite && 0 < s.hoursCap then s.hoursCap else standard.hoursCap

/-- Seconds for which an answer is waited for, at least one. -/
def requestTimeout (s : Settings) : UInt64 := max s.apiTimeout 1

/-- The place of the file below the configuration directory. -/
def fileName : String := "staffgrid/settings.json"

/-- The file that is written when there is none: the defaults with comments. Operation
`write_default_file`, specification `SPEC_FULL.md:288–294`. -/
def firstFile : List String :=
  ["\x7b",
    "    // Grid",
    "    // Upper bound for hours in one cell (a week has 168)",
    "    \"grid.hoursCap\": 168,",
    "    \"grid.defaultWeeks\": 12,",
    "",
    "    // Snapshot loading",
    "    // Horizons or scopes above these go through a background job",
    "    \"loader.asyncWeekThreshold\": 20,",
    "    \"loader.asyncPeopleThreshold\": 400,",
    "    \"loader.pollIntervalMs\": 1500,",
    "    \"loader.pollTimeoutSecs\": 300,",
    "",
    "    // Backend",
    "    \"api.base\": \"http://localhost:8000\",",
    "    \"api.timeoutSecs\": 60",
    "\x7d"]

/-- The text of the file that is written when there is none. -/
def firstText : List Char := firstFile.flatMap fun line => line.toList ++ ['\n']

end Settings

end AssignmentGrid
