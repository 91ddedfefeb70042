/-!
Plain text: what is left of a text when the commands to a terminal are taken out of it.

A command begins with the escape character.  What follows it decides how far the command goes: to
the end of a control sequence, to the end of a string, or over a few characters only.  Inside of a
command nothing is kept.  Outside, everything is kept but the control characters, and of these the
tab and the ends of lines and pages are kept as well; they also break off a command that is not a
string.
-/

namespace TicksAndWidths.Text

/-! ### Characters -/

/-- Whether a character is an ASCII control character. -/
def isControl (c : Char) : Bool :=
  c.toNat < 0x20 ∨ c = '\x7f'

/-- Whether a control character stands for blank space: a tab, or the end of a line or a page. -/
def isLayout (c : Char) : Bool :=
  c = '\t' ∨ c = '\n' ∨ c = '\x0c' ∨ c = '\r'

/-- Whether a character lies in a range. -/
def isBetween (first last c : Char) : Bool :=
  first ≤ c ∧ c ≤ last

/-- Whether a character ends a string inside of a command.  The terminator is one byte, which counts
even where it is a part of how another character is encoded. -/
def endsString (c : Char) : Bool :=
  (String.utf8EncodeChar c).contains 0x9c

/-! ### Commands -/

/-- Where a reader stands with respect to commands. -/
inductive Position where
  /-- Outside of every command. -/
  | outside
  /-- Behind the escape character. -/
  | escape
  /-- Behind the escape character and a mark, which one more character completes. -/
  | marked
  /-- In a control sequence. -/
  | sequence
  /-- In a command to the operating system. -/
  | systemCommand
  /-- At the beginning of a device control string. -/
  | deviceStart
  /-- In the parameters of a device control string. -/
  | deviceParameters
  /-- In the marks before a device control string. -/
  | deviceMarks
  /-- In a string, which only its terminator ends. -/
  | string
deriving DecidableEq, Repr

namespace Position

/-- The position behind a character that neither begins a command nor breaks one off. -/
def advance (position : Position) (c : Char) : Position :=
  match position with
  | outside => outside
  | escape =>
    if isBetween ' ' '/' c then marked
    else if c = '[' then sequence
    else if c = ']' then systemCommand
    else if c = 'P' then deviceStart
    else if c = 'X' ∨ c = '^' ∨ c = '_' then string
    else if isLayout c ∨ isBetween '0' '~' c then outside
    else escape
  | marked => if isLayout c ∨ isBetween '0' '~' c then outside else marked
  | sequence => if isLayout c ∨ isBetween '@' '~' c then outside else sequence
  | systemCommand => if c = '\x07' then outside else systemCommand
  | deviceStart =>
    if isBetween ' ' '/' c then deviceMarks
    else if isBetween '0' '?' c then deviceParameters
    else if isBetween '@' '~' c then string
    else deviceStart
  | deviceParameters =>
    if isBetween ' ' '/' c then deviceMarks
    else if isBetween '<' '~' c then string
    else deviceParameters
  | deviceMarks => if isBetween '0' '~' c then string else deviceMarks
  | string => if endsString c then outside else string

/-- The position behind a character.  The escape character begins a new command anywhere, and two
other control characters break off any command. -/
def next (position : Position) (c : Char) : Position :=
  if c = '\x1b' then escape
  else if c = '\x18' ∨ c = '\x1a' then outside
  else position.advance c

/-- Whether a character is kept. -/
def keeps (position : Position) (c : Char) : Bool :=
  match position with
  | outside => !isControl c || isLayout c
  | escape | marked | sequence => isLayout c
  | _ => false

end Position

/-- What is kept of a text from a position on. -/
def plainFrom (position : Position) : List Char → List Char
  | [] => []
  | c :: rest =>
    if position.keeps c then c :: plainFrom (position.next c) rest
    else plainFrom (position.next c) rest

/-- What is kept of a text. -/
def plain (text : List Char) : List Char :=
  plainFrom .outside text

end TicksAndWidths.Text
