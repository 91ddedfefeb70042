import TicksAndWidths.Json.Printer
import TicksAndWidths.Table.LengthTable
import TicksAndWidths.Table.Tuple

/-!
The layouts in which entries are written out: one tuple a line, the length table, or JSON.
-/

namespace TicksAndWidths.Table

open Text

/-- How entries are written out. -/
inductive Layout where
  /-- The index and the quoted row of each entry, one entry a line. -/
  | tuple
  /-- The length table, on one line. -/
  | lookup
  /-- An array of objects. -/
  | json
deriving DecidableEq, Repr

namespace Layout

/-- The name of a layout. -/
def name : Layout → String
  | tuple => "tuple"
  | lookup => "lookup"
  | json => "json"

/-- The layout of that name, in any mixture of ASCII cases. -/
def ofName (text : String) : Except Error Layout :=
  match text.toLower with
  | "tuple" => .ok tuple
  | "lookup" => .ok lookup
  | "json" => .ok json
  | other => .error (.unknownFormat other)

end Layout

/-! ### JSON -/

/-- The object of an entry: what the entry does not state is left out. -/
def Entry.toJson (entry : Entry) : Json.Value :=
  .object <|
    [("index", .number entry.index.toNat), ("line", .text entry.line)]
      ++ (entry.hex.map fun mark => ("hex", .number mark.toNat)).toList
      ++ (entry.ticks.map fun ticks => ("ticks", .number ticks.toNat)).toList
      ++ (entry.note.map fun note => ("note", .text note)).toList
      ++ (entry.heading.map fun heading => ("section", .text heading)).toList

/-! ### Writing out -/

/-- Ends a text by a newline, unless there is nothing to end. -/
def endLine (text : List Char) : List Char :=
  match text with
  | [] => []
  | _ => text ++ ['\n']

/-- The text of some entries before its last line is ended. -/
def layOut (entries : List Entry) : Layout → Except Error (List Char)
  | .tuple => .ok (['\n'].intercalate (entries.map Entry.tuple))
  | .lookup => LengthTable.print <$> LengthTable.ofEntries entries
  | .json => .ok (Json.Value.print 0 (.array (entries.map Entry.toJson)))

/-- Writes entries out in a layout, in the order in which they are given. -/
def write (entries : List Entry) (layout : Layout) : Except Error String := do
  return String.ofList (endLine (← layOut entries layout))

end TicksAndWidths.Table
