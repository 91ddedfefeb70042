import TicksAndWidths.Table.Builtin
import TicksAndWidths.Table.Layout
import TicksAndWidths.Table.Reading

/-!
The duration table from its source to the finished report.
-/

namespace TicksAndWidths.Table

/-- Where the text of a table comes from. -/
inductive Source where
  /-- The built-in table. -/
  | builtin
  /-- A file of that name. -/
  | file (path : String)
deriving DecidableEq, Repr

/-- What is asked of the duration table.  By default, the built-in table as tuples. -/
structure Request where
  source : Source := .builtin
  layout : Layout := .tuple
deriving DecidableEq, Repr

/-- The text of a table. -/
def Source.text (disk : Files.Disk) : Source → Logged Error String
  | .builtin => pure Table.builtin
  | .file path => do
    .write .debug .tableFile ("Reading table from " ++ path)
    .ofExcept ((disk.readText path).mapError (Error.unreadable path))

/-- Reads the table of a text, sorts it by index and writes it out. -/
def reportText (text : String) (layout : Layout) : Logged Error String := do
  let entries ← readSorted text
  .write .debug .durationTable
    ("Rendering " ++ toString entries.length ++ " entries as " ++ layout.name)
  .ofExcept (write entries layout)

/-- The report that a request asks for. -/
def report (disk : Files.Disk) (request : Request) : Logged Error String := do
  reportText (← request.source.text disk) request.layout

end TicksAndWidths.Table
