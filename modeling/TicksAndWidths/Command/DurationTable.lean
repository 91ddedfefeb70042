import TicksAndWidths.Command.Arguments
import TicksAndWidths.Command.Outcome
import TicksAndWidths.Table.Report

/-!
The command line of `duration-table`, which sorts a duration table by index.
-/

namespace TicksAndWidths.Command.DurationTable

/-- The options of the tool. -/
inductive Key where
  | input
  | format
  | debug
  | help
  | version
deriving DecidableEq, Repr

/-- How the options are written. -/
def options : List (OptionSpec Key) := [
  { key := .input, long := "input", letter := some 'i', takesValue := true },
  { key := .format, long := "format", letter := some 'f', takesValue := true },
  { key := .debug, long := "debug", letter := some 'd' },
  { key := .help, long := "help", letter := some 'h' },
  { key := .version, long := "version", letter := some 'V' }]

/-- What the command line says. -/
structure Settings where
  input : Option String := none
  layout : Option Table.Layout := none
  debug : Bool := false
deriving DecidableEq, Repr

/-- Takes one token into account. -/
def Settings.apply (settings : Settings) : Token Key → Except Stop Settings
  | .value .input path => do
    if path.isEmpty then throw .usage
    return { settings with input := ← setOnce settings.input path }
  | .value .format name =>
    match Table.Layout.ofName name with
    | .ok layout => do return { settings with layout := ← setOnce settings.layout layout }
    | .error _ => throw .usage
  | .flag .debug => do return { settings with debug := ← raiseOnce settings.debug }
  | .flag .help => throw .help
  | .flag .version => throw .version
  | _ => throw .usage

/-- Reads the command line. -/
def Settings.ofArguments (arguments : List String) : Except Stop Settings :=
  (tokens options arguments).foldlM Settings.apply {}

/-- What is asked of the table. -/
def Settings.request (settings : Settings) : Table.Request where
  source := match settings.input with
    | some path => .file path
    | none => .builtin
  layout := settings.layout.getD .tuple

/-- The help. -/
def helpText : String :=
  "Sort the hand-written APU length-counter table by its binary index

Usage: duration-table [OPTIONS]

Options:
  -i, --input <INPUT>    Read the table from this file instead of the built-in one
  -f, --format <FORMAT>  Output format: tuple, lookup or json [default: tuple]
  -d, --debug            Use debug logging level
  -h, --help             Print help
  -V, --version          Print version
"

/-- What is said about a command line that is not understood. -/
def usageText : String :=
  "error: invalid arguments

Usage: duration-table [OPTIONS]

For more information, try '--help'.
"

/-- The outcome of a run that ends before it begins. -/
def stopped : Stop → Outcome
  | .usage => { code := 2, output := "", messages := usageText }
  | .help => { code := 0, output := helpText, messages := "" }
  | .version => { code := 0, output := "duration-table 0.1.0\n", messages := "" }

/-- Runs the tool with the files of a disk. -/
def run (disk : Files.Disk) (arguments : List String) : Outcome :=
  match Settings.ofArguments arguments with
  | .error stop => stopped stop
  | .ok settings =>
    Outcome.ofLogged settings.debug ((Table.report disk settings.request).mapError .table)

/-- The file that a run reads, if it reads any. -/
def fileRead? (arguments : List String) : Option String :=
  match Settings.ofArguments arguments with
  | .error _ => none
  | .ok settings => settings.input

end TicksAndWidths.Command.DurationTable
