import TicksAndWidths.Font.Measure
import TicksAndWidths.Table.Error

/-!
The failures of both tools under one roof: what failed, and why.

`message` says it in a sentence, and `dump` spells out the structure of the cause.
-/

namespace TicksAndWidths

open Text

/-- The failure of a tool. -/
inductive ToolError where
  | table (cause : Table.Error)
  | glyph (cause : Font.GlyphError)
  | source (cause : Font.SourceError)
deriving DecidableEq, Repr

/-- What failed, and why. -/
def ToolError.message : ToolError → String
  | table cause => "Duration table failed: " ++ cause.message
  | glyph cause => "Glyph lookup failed: " ++ cause.message
  | source cause => "Font source failed: " ++ cause.message

/-! ### Kinds

The short name of each cause, by which callers tell them apart. -/

/-- The kind of a failure in the duration table. -/
def Table.Error.kind : Table.Error → String
  | invalidDigit _ _ => "InvalidDigit"
  | missingTicks _ => "MissingTicks"
  | duplicateIndex _ => "DuplicateIndex"
  | indexOutOfRange _ => "IndexOutOfRange"
  | missingSlot _ => "MissingSlot"
  | unknownFormat _ => "UnknownFormat"
  | unreadable _ _ => "Read"

/-- The kind of a failure of a font source. -/
def Font.SourceError.kind : Font.SourceError → String
  | notFound _ => "NotFound"
  | unreadable _ _ => "Unreadable"

/-- The kind of a fault in a font file. -/
def Font.FaceFault.kind : Font.FaceFault → String
  | unknownMagic => "UnknownMagic"
  | malformed => "MalformedFont"
  | emptyCollection => "FaceIndexOutOfBounds"
  | noHead => "NoHeadTable"
  | noHhea => "NoHheaTable"
  | noMaxp => "NoMaxpTable"

/-- The kind of a failure to measure; that of the source, where the source failed. -/
def Font.GlyphError.kind : Font.GlyphError → String
  | source cause => cause.kind
  | malformed _ => "Parse"
  | noNotdefGlyph => "MissingNotdef"

/-- The kind of the innermost cause. -/
def ToolError.kind : ToolError → String
  | table cause => cause.kind
  | glyph cause => cause.kind
  | source cause => cause.kind

/-- The kind of a failed read. -/
def Files.Failure.kind : Files.Failure → String
  | notFound => "NotFound"
  | permissionDenied => "PermissionDenied"
  | notADirectory => "NotADirectory"
  | isADirectory => "IsADirectory"
  | nameTooLong => "InvalidFilename"
  | nulInName => "InvalidInput"
  | notText => "InvalidData"

/-! ### Dumps -/

/-- A cause with one unnamed part. -/
def dumpTuple (kind part : String) : String :=
  kind ++ "(" ++ part ++ ")"

/-- A cause with named parts. -/
def dumpRecord (kind : String) (parts : List (String × String)) : String :=
  kind ++ " \x7b " ++ ", ".intercalate (parts.map fun (name, part) => name ++ ": " ++ part)
    ++ " \x7d"

/-- A failed read, with its number if it has one. -/
def Files.Failure.dump (failure : Files.Failure) : String :=
  let parts := [("kind", failure.kind), ("message", Escaped.ofString failure.description)]
  match failure.number? with
  | some n => dumpRecord "Os" (("code", toString n) :: parts)
  | none => dumpRecord "Error" parts

/-- A failure in the duration table. -/
def Table.Error.dump (error : Table.Error) : String :=
  match error with
  | invalidDigit line found =>
    dumpRecord error.kind [("line", Escaped.ofString line), ("found", Escaped.ofChar found)]
  | missingTicks line => dumpRecord error.kind [("line", Escaped.ofString line)]
  | duplicateIndex index => dumpRecord error.kind [("index", toString index)]
  | indexOutOfRange index => dumpRecord error.kind [("index", toString index)]
  | missingSlot index => dumpRecord error.kind [("index", toString index)]
  | unknownFormat name => dumpTuple error.kind (Escaped.ofString name)
  | unreadable path cause =>
    dumpRecord error.kind [("path", Escaped.ofString path), ("source", cause.dump)]

/-- A failure of a font source. -/
def Font.SourceError.dump (error : Font.SourceError) : String :=
  match error with
  | notFound path => dumpTuple error.kind (Escaped.ofString path)
  | unreadable path cause =>
    dumpRecord error.kind [("path", Escaped.ofString path), ("source", cause.dump)]

/-- A failure to measure. -/
def Font.GlyphError.dump (error : Font.GlyphError) : String :=
  match error with
  | source cause => dumpTuple "Source" cause.dump
  | malformed fault => dumpTuple error.kind fault.kind
  | noNotdefGlyph => error.kind

/-- The failure of a tool. -/
def ToolError.dump : ToolError → String
  | table cause => dumpTuple "Table" cause.dump
  | glyph cause => dumpTuple "Glyph" cause.dump
  | source cause => dumpTuple "Source" cause.dump

end TicksAndWidths
