import TicksAndWidths.Text.Numeral
import TicksAndWidths.Unicode.Blank

/-!
What a row states after its index: the index again in hexadecimal, its length in ticks, and a
remark, in this order and each of them optional.

Each reader takes its part from the front of the text and returns it with the rest, or fails and
takes nothing.  Any run of spaces and tabs may stand before a part and around the arrow.
-/

namespace TicksAndWidths.Table

open Text Unicode

/-- Whether a character may separate the parts of a row. -/
def isGap (c : Char) : Bool :=
  c = ' ' ∨ c = '\t'

/-- Drops the spaces and tabs at the front. -/
def skipGap (text : List Char) : List Char :=
  text.dropWhile isGap

/-- Reads a byte in hexadecimal digits between parentheses. -/
def hexMark? (text : List Char) : Option (UInt8 × List Char) :=
  match skipGap text with
  | '(' :: body =>
    let digits := body.takeWhile isHexDigit
    match body.dropWhile isHexDigit with
    | ')' :: rest =>
      if digits ≠ [] ∧ ofHex digits < 256 then some (UInt8.ofNat (ofHex digits), rest) else none
    | _ => none
  | _ => none

/-- Reads a length in ticks: an arrow and a decimal number below 65536. -/
def ticks? (text : List Char) : Option (UInt16 × List Char) :=
  match skipGap text with
  | '=' :: '>' :: body => do
    let (n, rest) ← readDecimal? (skipGap body)
    if n < 65536 then some (UInt16.ofNat n, rest) else none
  | _ => none

/-- Reads a remark: anything but nothing, up to the first closing parenthesis. -/
def remark? (text : List Char) : Option (List Char × List Char) :=
  match skipGap text with
  | '(' :: body =>
    let words := body.takeWhile (· ≠ ')')
    match body.dropWhile (· ≠ ')') with
    | ')' :: rest => if words ≠ [] then some (words, rest) else none
    | _ => none
  | _ => none

/-- Reads a part if it is there, and takes nothing otherwise. -/
def optional {α : Type} (read? : List Char → Option (α × List Char)) (text : List Char) :
    Option α × List Char :=
  match read? text with
  | some (a, rest) => (some a, rest)
  | none => (none, text)

/-- What a row states after its index. -/
structure Annotations where
  hex : Option UInt8
  ticks : Option UInt16
  note : Option String
deriving DecidableEq, Repr

/-- Reads the parts of a row that follow its index.  What comes after them is free. -/
def Annotations.ofText (text : List Char) : Annotations :=
  let (hex, afterHex) := optional hexMark? text
  let (ticks, afterTicks) := optional ticks? afterHex
  let (words, _) := optional remark? afterTicks
  { hex, ticks, note := words.map fun words => String.ofList (trim words) }

end TicksAndWidths.Table
