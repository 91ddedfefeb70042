import TicksAndWidths.Text.Plain
import TicksAndWidths.ToolError

/-!
What a run of a tool leaves behind: its output, its messages, and its exit code.
-/

namespace TicksAndWidths.Command

/-- What a run leaves behind. -/
structure Outcome where
  /-- 0 after a success, 1 after a failure, 2 if the command line is not understood. -/
  code : UInt32
  /-- The text on standard output. -/
  output : String
  /-- The text on standard error. -/
  messages : String
deriving DecidableEq, Repr

/-! ### The log on standard error -/

/-- The name of a topic in the log. -/
def topicName : Topic → String
  | .rows => "nes_scratch_duration::parser"
  | .tableFile => "nes_scratch_duration::config"
  | .durationTable => "nes_scratch_duration"
  | .font => "nes_scratch_glyph::font"
  | .measuring => "nes_scratch_glyph::lookup"
  | .disk => "nes_scratch_resource::filesystem"

/-- The name of a severity in the log. -/
def severityName : Severity → String
  | .warn => "WARN"
  | .info => "INFO"
  | .debug => "DEBUG"

/-- A record as it is shown, as plain text.  The lines of its text after the first are indented. -/
def recordLine (record : LogRecord) : String :=
  let severity := (severityName record.severity).toList
  let padded := severity ++ List.replicate (5 - severity.length) ' '
  let text := record.text.toList.flatMap fun c =>
    if c = '\n' then '\n' :: List.replicate 4 ' ' else [c]
  let line := "[" ++ String.ofList padded ++ " " ++ topicName record.topic ++ "] "
    ++ String.ofList text ++ "\n"
  String.ofList (Text.plain line.toList)

/-- Whether a record is shown; only warnings are, unless everything is asked for. -/
def isShown (debug : Bool) (record : LogRecord) : Bool :=
  debug || record.severity = .warn

/-- The records that are shown, line by line. -/
def logText (debug : Bool) (records : List LogRecord) : String :=
  String.join ((records.filter (isShown debug)).map recordLine)

/-! ### Outcomes -/

/-- The outcome of a run that came to an end: its output, or the dump of its failure. -/
def Outcome.ofLogged (debug : Bool) (run : Logged ToolError String) : Outcome :=
  let log := logText debug run.records
  match run.outcome with
  | .ok output => { code := 0, output, messages := log }
  | .error error =>
    { code := 1, output := "", messages := log ++ "Error: " ++ error.dump ++ "\n" }

end TicksAndWidths.Command
