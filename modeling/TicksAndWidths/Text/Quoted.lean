import TicksAndWidths.Text.Numeral

/-!
String literals between single or double quotes.

`encode` writes a text on one line between quotes: the double quote delimits a text that holds
single quotes and no double ones, the single quote delimits all others.  A backslash, the
delimiter, line breaks, tabs and whatever is not printable are escaped.  `decode` reads a literal of
either kind.  Which characters count as printable is a parameter of the writer; the reader does not
need to know it.
-/

namespace TicksAndWidths.Text.Quoted

/-- The quote that delimits the literal of a text. -/
def delimiter (text : List Char) : Char :=
  if '\'' ∈ text ∧ '"' ∉ text then '"' else '\''

/-- The escape of a character by its number, in the shortest of three widths that holds it. -/
def numeric (c : Char) : List Char :=
  if c.toNat < 0x100 then '\\' :: 'x' :: hex 2 c.toNat
  else if c.toNat < 0x10000 then '\\' :: 'u' :: hex 4 c.toNat
  else '\\' :: 'U' :: hex 8 c.toNat

/-- How one character is written inside a literal. -/
def escape (printable : Char → Bool) (quote c : Char) : List Char :=
  if c = '\\' then ['\\', '\\']
  else if c = '\n' then ['\\', 'n']
  else if c = '\r' then ['\\', 'r']
  else if c = '\t' then ['\\', 't']
  else if c = quote then ['\\', c]
  else if printable c then [c]
  else numeric c

/-- The literal of a text. -/
def encode (printable : Char → Bool) (text : List Char) : List Char :=
  let quote := delimiter text
  quote :: (text.flatMap (escape printable quote) ++ [quote])

/-- Reads the body of a literal: its text, and what follows the closing quote. -/
def decodeBody (quote : Char) : List Char → Option (List Char × List Char)
  | [] => none
  | '\\' :: 'x' :: a :: b :: rest => do
    let c ← scalar? [a, b]
    let (text, rest) ← decodeBody quote rest
    return (c :: text, rest)
  | '\\' :: 'u' :: a :: b :: c :: d :: rest => do
    let c ← scalar? [a, b, c, d]
    let (text, rest) ← decodeBody quote rest
    return (c :: text, rest)
  | '\\' :: 'U' :: a :: b :: c :: d :: e :: f :: g :: h :: rest => do
    let c ← scalar? [a, b, c, d, e, f, g, h]
    let (text, rest) ← decodeBody quote rest
    return (c :: text, rest)
  | '\\' :: c :: rest => do
    let c ← match c with
      | '\\' => some '\\'
      | '\'' => some '\''
      | '"' => some '"'
      | 'n' => some '\n'
      | 'r' => some '\r'
      | 't' => some '\t'
      | _ => none
    let (text, rest) ← decodeBody quote rest
    return (c :: text, rest)
  | c :: rest =>
    if c = quote then some ([], rest)
    else if c = '\\' ∨ c = '\n' then none
    else do
      let (text, rest) ← decodeBody quote rest
      return (c :: text, rest)

/-- Reads the literal at the front: its text, and what follows it. -/
def decode : List Char → Option (List Char × List Char)
  | '\'' :: rest => decodeBody '\'' rest
  | '"' :: rest => decodeBody '"' rest
  | _ => none

end TicksAndWidths.Text.Quoted
