import TicksAndWidths.Json.Basic
import TicksAndWidths.Text.Numeral

/-!
Reading JSON.

Blanks may stand between any two tokens, and a string may write any of its characters by an escape.
The members of an object keep their order.  `Value.read` takes all of a text; a text that holds a
fraction, a sign or one of the three named constants stands for no value here.
-/

namespace TicksAndWidths.Json

open Text

/-! ### Tokens -/

/-- Whether a character may stand between tokens. -/
def isBlank (c : Char) : Bool :=
  c = ' ' ∨ c = '\t' ∨ c = '\n' ∨ c = '\r'

/-- Drops the blanks at the front. -/
def skipBlanks (text : List Char) : List Char :=
  text.dropWhile isBlank

/-- Reads a number, which has no leading zeros. -/
def readNumber (text : List Char) : Option (Nat × List Char) := do
  let (n, rest) ← readDecimal? text
  if text.takeWhile Char.isDigit = decimal n then some (n, rest) else none

/-- The character that a letter stands for behind a backslash. -/
def unescape : Char → Option Char
  | '"' => some '"'
  | '\\' => some '\\'
  | '/' => some '/'
  | 'b' => some '\x08'
  | 'f' => some '\x0c'
  | 'n' => some '\n'
  | 'r' => some '\r'
  | 't' => some '\t'
  | _ => none

/-- Reads a string behind its opening quote: its characters, and what follows its closing quote. -/
def readBody : List Char → Option (List Char × List Char)
  | [] => none
  | '"' :: rest => some ([], rest)
  | '\\' :: 'u' :: a :: b :: c :: d :: rest => do
    let c ← scalar? [a, b, c, d]
    let (text, rest) ← readBody rest
    return (c :: text, rest)
  | '\\' :: c :: rest => do
    let c ← unescape c
    let (text, rest) ← readBody rest
    return (c :: text, rest)
  | c :: rest =>
    if c = '\\' ∨ c.toNat < 0x20 then none
    else do
      let (text, rest) ← readBody rest
      return (c :: text, rest)

/-- Reads the name of a member and the colon behind it. -/
def readKey (text : List Char) : Option (String × List Char) :=
  match skipBlanks text with
  | '"' :: body => do
    let (key, rest) ← readBody body
    match skipBlanks rest with
    | ':' :: rest => some (String.ofList key, rest)
    | _ => none
  | _ => none

/-! ### Values -/

mutual

/-- Reads a value at the front of a text, in at most so many nested steps. -/
def readValue : Nat → List Char → Option (Value × List Char)
  | 0, _ => none
  | steps + 1, text =>
    match skipBlanks text with
    | '"' :: body => do
      let (s, rest) ← readBody body
      return (.text (String.ofList s), rest)
    | '[' :: body =>
      match skipBlanks body with
      | ']' :: rest => some (.array [], rest)
      | _ => do
        let (items, rest) ← readItems steps body
        return (.array items, rest)
    | '\x7b' :: body =>
      match skipBlanks body with
      | '\x7d' :: rest => some (.object [], rest)
      | _ => do
        let (members, rest) ← readMembers steps body
        return (.object members, rest)
    | start => do
      let (n, rest) ← readNumber start
      return (.number n, rest)

/-- Reads the items of an array up to its closing bracket. -/
def readItems : Nat → List Char → Option (List Value × List Char)
  | 0, _ => none
  | steps + 1, text => do
    let (v, rest) ← readValue steps text
    match skipBlanks rest with
    | ']' :: rest => some ([v], rest)
    | ',' :: rest => do
      let (vs, rest) ← readItems steps rest
      return (v :: vs, rest)
    | _ => none

/-- Reads the members of an object up to its closing brace. -/
def readMembers : Nat → List Char → Option (List (String × Value) × List Char)
  | 0, _ => none
  | steps + 1, text => do
    let (key, rest) ← readKey text
    let (v, rest) ← readValue steps rest
    match skipBlanks rest with
    | '\x7d' :: rest => some ([(key, v)], rest)
    | ',' :: rest => do
      let (members, rest) ← readMembers steps rest
      return ((key, v) :: members, rest)
    | _ => none

end

/-- The value that a text stands for, with nothing but blanks around it.  Every nested step takes a
character, so there are enough of them. -/
def Value.read (text : List Char) : Option Value := do
  let (v, rest) ← readValue (text.length + 1) text
  if skipBlanks rest = [] then some v else none

end TicksAndWidths.Json
