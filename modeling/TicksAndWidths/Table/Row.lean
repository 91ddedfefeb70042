import TicksAndWidths.Log
import TicksAndWidths.Table.Annotation
import TicksAndWidths.Table.Entry
import TicksAndWidths.Table.Error

/-!
Rows of a duration table.

A row is a line that begins with a binary digit.  Its first six characters spell the index; the rest
is read for annotations.  A row whose hexadecimal mark disagrees with its index is kept as it
stands, and a warning names it.
-/

namespace TicksAndWidths.Table

open Text

/-- The number of leading characters that spell the index of a row. -/
def indexWidth : Nat := 6

/-- Whether a line is a row. -/
def isRow (line : List Char) : Bool :=
  match line with
  | c :: _ => c = '0' ∨ c = '1'
  | [] => false

/-- Appends one binary digit to an index. -/
def appendDigit (line : String) (index : UInt8) (digit : Char) : Except Error UInt8 :=
  if digit = '0' then .ok (index <<< 1)
  else if digit = '1' then .ok (index <<< 1 ||| 1)
  else .error (.invalidDigit line digit)

/-- The index of a line: the binary digits among its first six characters, which may hold spaces
but nothing else beside them. -/
def readIndex (line : String) : Except Error UInt8 :=
  ((line.toList.take indexWidth).filter (· ≠ ' ')).foldlM (appendDigit line) 0

/-- The warning about a row whose mark disagrees with its index. -/
def mismatchText (line : String) (mark index : UInt8) : String :=
  "Row '" ++ line ++ "' is annotated (" ++ String.ofList (upperHex 2 mark.toNat)
    ++ ") but its binary index is " ++ toString index

/-- Warns about a mark that is there and disagrees with the index. -/
def checkMark (line : String) (mark : Option UInt8) (index : UInt8) : Logged Error Unit :=
  match mark with
  | some mark =>
    if mark ≠ index then .write .warn .rows (mismatchText line mark index) else pure ()
  | none => pure ()

/-- Reads one row. -/
def readRow (line : String) : Logged Error Entry := do
  let index ← .ofExcept (readIndex line)
  let stated := Annotations.ofText (line.toList.drop indexWidth)
  checkMark line stated.hex index
  return { index, line, hex := stated.hex, ticks := stated.ticks, note := stated.note }

end TicksAndWidths.Table
