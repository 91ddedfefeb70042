import Std.Data.TreeMap
import TicksAndWidths.Files.Failure
import TicksAndWidths.Files.Path
import TicksAndWidths.Log

/-!
Where the bytes of fonts come from: a store in memory, or a directory of a disk.
-/

namespace TicksAndWidths.Font

/-- Why a source has no font under a name. -/
inductive SourceError where
  | notFound (path : String)
  | unreadable (path : String) (cause : Files.Failure)
deriving DecidableEq, Repr

/-- The cause in words. -/
def SourceError.message : SourceError → String
  | notFound path => "No font at '" ++ path ++ "'"
  | unreadable path cause => "Cannot read font '" ++ path ++ "': " ++ cause.message

/-- A source of fonts. -/
inductive Source where
  /-- Fonts that were registered under their names. -/
  | memory (fonts : Std.TreeMap String ByteArray)
  /-- The files of a disk, whose names are seen from the directory `base`. -/
  | directory (base : String) (disk : Files.Disk)

namespace Source

/-- The name of a kind of source in the log. -/
def label : Source → String
  | memory _ => "InMemoryFontSource"
  | directory _ _ => "FilesystemFontSource"

/-- Registers a font in memory, in place of any other of that name.  A directory is only read. -/
def add (source : Source) (path : String) (font : ByteArray) : Source :=
  match source with
  | memory fonts => memory (fonts.insert path font)
  | directory base disk => directory base disk

/-- Reads the file of that full name. -/
def readFile (disk : Files.Disk) (path : String) : Except SourceError ByteArray :=
  match disk path with
  | .ok font => .ok font
  | .error .notFound => .error (.notFound path)
  | .error cause => .error (.unreadable path cause)

/-- The bytes of the font of that name. -/
def load (source : Source) (path : String) : Logged SourceError ByteArray :=
  match source with
  | memory fonts =>
    match fonts[path]? with
    | some font => pure font
    | none => .fail (.notFound path)
  | directory base disk => do
    let full := Files.Path.join base path
    .write .debug .disk ("Reading font from " ++ full)
    .ofExcept (readFile disk full)

end Source

end TicksAndWidths.Font
