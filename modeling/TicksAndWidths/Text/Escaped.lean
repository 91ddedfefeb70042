import TicksAndWidths.Text.Numeral
import TicksAndWidths.Unicode.Extending
import TicksAndWidths.Unicode.Printable

/-!
Characters and strings shown for inspection.

A character stands between single quotes and a string between double quotes.  The delimiter, the
backslash, NUL, tabs and line breaks are escaped by a backslash; a character that cannot be shown
by itself, because it is not printable, extends the one before it or is drawn as nothing, is written
by its number in braces.  The other kind of quote stays as it is.
-/

namespace TicksAndWidths.Text.Escaped

open Unicode

/-- How one character is written between the given quotes. -/
def escape (quote c : Char) : List Char :=
  if c = '\x00' then ['\\', '0']
  else if c = '\t' then ['\\', 't']
  else if c = '\r' then ['\\', 'r']
  else if c = '\n' then ['\\', 'n']
  else if c = '\\' ∨ c = quote then ['\\', c]
  else if isExtending c ∨ isFiller c ∨ ¬ isPrintable .seventeen c then
    '\\' :: 'u' :: '\x7b' :: (hex 0 c.toNat ++ ['\x7d'])
  else [c]

/-- A character between single quotes. -/
def ofChar (c : Char) : String :=
  String.ofList ('\'' :: (escape '\'' c ++ ['\'']))

/-- A string between double quotes. -/
def ofString (s : String) : String :=
  String.ofList ('"' :: (s.toList.flatMap (escape '"') ++ ['"']))

end TicksAndWidths.Text.Escaped
