import TicksAndWidths.Command.Arguments
import TicksAndWidths.Command.Outcome

/-!
The command line of `glyph-width`, which measures one character of a font.
-/

namespace TicksAndWidths.Command.GlyphWidth

/-- The options of the tool. -/
inductive Key where
  | font
  | character
  | verbose
  | debug
  | help
  | version
deriving DecidableEq, Repr

/-- How the options are written. -/
def options : List (OptionSpec Key) := [
  { key := .font, long := "font", takesValue := true },
  { key := .character, long := "char", letter := some 'c', takesValue := true },
  { key := .verbose, long := "verbose", letter := some 'v' },
  { key := .debug, long := "debug", letter := some 'd' },
  { key := .help, long := "help", letter := some 'h' },
  { key := .version, long := "version", letter := some 'V' }]

/-- What the command line says. -/
structure Settings where
  font : Option String := none
  character : Option Char := none
  verbose : Bool := false
  debug : Bool := false
deriving DecidableEq, Repr

/-- Takes one token into account. -/
def Settings.apply (settings : Settings) : Token Key → Except Stop Settings
  | .value .font path => do return { settings with font := ← setOnce settings.font path }
  | .value .character text =>
    match text.toList with
    | [c] => do return { settings with character := ← setOnce settings.character c }
    | _ => throw .usage
  | .flag .verbose => do return { settings with verbose := ← raiseOnce settings.verbose }
  | .flag .debug => do return { settings with debug := ← raiseOnce settings.debug }
  | .flag .help => throw .help
  | .flag .version => throw .version
  | _ => throw .usage

/-- Reads the command line. -/
def Settings.ofArguments (arguments : List String) : Except Stop Settings :=
  (tokens options arguments).foldlM Settings.apply {}

/-- What is asked of the font. -/
def Settings.request (settings : Settings) : Font.Request :=
  let default : Font.Request := {}
  { path := settings.font.getD default.path
    character := settings.character.getD default.character }

/-- The help. -/
def helpText : String :=
  "Print a character's glyph advance width in font design units

Usage: glyph-width [OPTIONS]

Options:
      --font <FONT>       Font file, relative to the current directory [default: \"src/fonts/Retro Gaming.ttf\"]
  -c, --char <CHARACTER>  Character to measure [default: A]
  -v, --verbose           Also print the glyph that answered and whether .notdef was used
  -d, --debug             Use debug logging level
  -h, --help              Print help
  -V, --version           Print version
"

/-- What is said about a command line that is not understood. -/
def usageText : String :=
  "error: invalid arguments

Usage: glyph-width [OPTIONS]

For more information, try '--help'.
"

/-- The outcome of a run that ends before it begins. -/
def stopped : Stop → Outcome
  | .usage => { code := 2, output := "", messages := usageText }
  | .help => { code := 0, output := helpText, messages := "" }
  | .version => { code := 0, output := "glyph-width 0.1.0\n", messages := "" }

/-- The width on a line, and the whole answer on another if it is asked for. -/
def answerText (verbose : Bool) (hit : Font.Hit) : String :=
  toString hit.width ++ "\n" ++ if verbose then hit.display ++ "\n" else ""

/-- Runs the tool in a working directory, with the files of a disk. -/
def run (disk : Files.Disk) (workingDirectory : String) (arguments : List String) : Outcome :=
  match Settings.ofArguments arguments with
  | .error stop => stopped stop
  | .ok settings =>
    let source := Font.Source.directory workingDirectory disk
    Outcome.ofLogged settings.debug do
      let hit ← (Font.measure source settings.request).mapError .glyph
      return answerText settings.verbose hit

/-- The file that a run reads, if it reads any. -/
def fileRead? (workingDirectory : String) (arguments : List String) : Option String :=
  match Settings.ofArguments arguments with
  | .error _ => none
  | .ok settings => some (Files.Path.join workingDirectory settings.request.path)

end TicksAndWidths.Command.GlyphWidth
