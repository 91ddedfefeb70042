import TicksAndWidths.Table.Entry
import TicksAndWidths.Text.Quoted
import TicksAndWidths.Unicode.Printable

/-!
The tuple of an entry: its index and its row as a literal, between parentheses.

`Entry.tuple` writes it and `readTuple?` reads it.
-/

namespace TicksAndWidths.Table

open Text

/-- A row as a literal in which everything is printable by Unicode 15.0. -/
def quotedLine (line : String) : List Char :=
  Quoted.encode (Unicode.isPrintable .fifteen) line.toList

/-- The tuple of an entry. -/
def Entry.tuple (entry : Entry) : List Char :=
  '(' :: (decimal entry.index.toNat ++ [',', ' '] ++ quotedLine entry.line ++ [')'])

/-- The index and the row of a tuple. -/
def readTuple? (text : List Char) : Option (Nat × String) :=
  match text with
  | '(' :: body => do
    let (index, rest) ← readDecimal? body
    match rest with
    | ',' :: ' ' :: literal => do
      let (line, rest) ← Quoted.decode literal
      if rest = [')'] then some (index, String.ofList line) else none
    | _ => none
  | _ => none

end TicksAndWidths.Table
