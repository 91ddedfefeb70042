import TicksAndWidths.Files.Failure

/-!
Why a duration table cannot be read or written out.
-/

namespace TicksAndWidths.Table

/-- The cause of a failure in the duration table. -/
inductive Error where
  /-- The index of a row holds a character that is neither a binary digit nor a space. -/
  | invalidDigit (line : String) (found : Char)
  /-- A row states no length. -/
  | missingTicks (line : String)
  /-- Two rows have the same index. -/
  | duplicateIndex (index : UInt8)
  /-- An index lies beyond the length table. -/
  | indexOutOfRange (index : UInt8)
  /-- No row has this index. -/
  | missingSlot (index : Nat)
  /-- No layout has this name. -/
  | unknownFormat (name : String)
  /-- The file of the table cannot be read. -/
  | unreadable (path : String) (cause : Files.Failure)
deriving DecidableEq, Repr

/-- The cause in words. -/
def Error.message : Error → String
  | invalidDigit line found =>
    "Invalid binary digit '" ++ found.toString ++ "' in index prefix of line '" ++ line ++ "'"
  | missingTicks line => "Row '" ++ line ++ "' has no '=> <ticks>' value"
  | duplicateIndex index => "Index " ++ toString index ++ " appears more than once in the table"
  | indexOutOfRange index =>
    "Index " ++ toString index ++ " does not fit in the 32-entry length table"
  | missingSlot index => "No row defines index " ++ toString index ++ " of the length table"
  | unknownFormat name =>
    "Unknown output format '" ++ name ++ "' (expected tuple, lookup or json)"
  | unreadable path cause => "Failed to read table from '" ++ path ++ "': " ++ cause.message

end TicksAndWidths.Table
