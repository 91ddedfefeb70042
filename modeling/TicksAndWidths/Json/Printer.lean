import TicksAndWidths.Json.Basic
import TicksAndWidths.Text.Numeral

/-!
The indented text of a JSON value.

Each item of an array and each member of an object stands on a line of its own, two spaces deeper
than the bracket that opens it; empty arrays and objects are closed at once.  In a string, only the
quote, the backslash and the control characters below the space are escaped.
-/

namespace TicksAndWidths.Json

open Text

/-- How one character is written inside a string. -/
def escape (c : Char) : List Char :=
  if c = '"' then ['\\', '"']
  else if c = '\\' then ['\\', '\\']
  else if c = '\x08' then ['\\', 'b']
  else if c = '\t' then ['\\', 't']
  else if c = '\n' then ['\\', 'n']
  else if c = '\x0c' then ['\\', 'f']
  else if c = '\r' then ['\\', 'r']
  else if c.toNat < 0x20 then '\\' :: 'u' :: hex 4 c.toNat
  else [c]

/-- A string between its quotes. -/
def quote (s : String) : List Char :=
  '"' :: (s.toList.flatMap escape ++ ['"'])

/-- A line break, and the indentation of the next line. -/
def newline (depth : Nat) : List Char :=
  '\n' :: List.replicate (2 * depth) ' '

mutual

/-- The text of a value whose first line is indented by `depth` steps. -/
def Value.print (depth : Nat) : Value → List Char
  | .number n => decimal n
  | .text s => quote s
  | .array [] => ['[', ']']
  | .array (v :: vs) =>
    '[' :: (newline (depth + 1) ++ v.print (depth + 1) ++ printItems (depth + 1) vs
      ++ newline depth ++ [']'])
  | .object [] => ['\x7b', '\x7d']
  | .object ((key, v) :: members) =>
    '\x7b' :: (newline (depth + 1) ++ quote key ++ [':', ' '] ++ v.print (depth + 1)
      ++ printMembers (depth + 1) members ++ newline depth ++ ['\x7d'])

/-- The items of an array after the first, each after its comma. -/
def printItems (depth : Nat) : List Value → List Char
  | [] => []
  | v :: vs => ',' :: (newline depth ++ v.print depth ++ printItems depth vs)

/-- The members of an object after the first, each after its comma. -/
def printMembers (depth : Nat) : List (String × Value) → List Char
  | [] => []
  | (key, v) :: members =>
    ',' :: (newline depth ++ quote key ++ [':', ' '] ++ v.print depth
      ++ printMembers depth members)

end

end TicksAndWidths.Json
