import TicksAndWidths.Table.Row

/-!
Reading a whole duration table.

A table is read line by line.  A line that is no row and not blank is the heading of the rows that
follow it, up to the next heading.  The first row that cannot be read ends the reading.
-/

namespace TicksAndWidths.Table

open Unicode

/-- The lines of a text.  Only a newline ends a line, so a carriage return before it stays. -/
def lines (text : String) : List String :=
  (text.toList.splitOn '\n').map String.ofList

/-- The heading that a line which is no row sets, unless it is blank. -/
def heading? (line : String) : Option String :=
  match trim line.toList with
  | [] => none
  | words => some (String.ofList words)

/-- Reads lines below a heading, the rows among them in their order. -/
def readLines (heading : Option String) : List String → Logged Error (List Entry)
  | [] => pure []
  | line :: rest =>
    if isRow line.toList then do
      let entry ← readRow line
      let entries ← readLines heading rest
      return { entry with heading } :: entries
    else readLines (heading? line <|> heading) rest

/-- Reads the rows of a table in their order. -/
def read (text : String) : Logged Error (List Entry) := do
  let entries ← readLines none (lines text)
  .write .debug .rows ("Parsed " ++ toString entries.length ++ " table rows")
  return entries

/-- Reads the rows of a table and sorts them by index. -/
def readSorted (text : String) : Logged Error (List Entry) := do
  return Entry.sort (← read text)

end TicksAndWidths.Table
