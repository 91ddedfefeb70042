/-!
Reading the arguments of a command line.

Every option has a long name after two dashes, and may have a letter after one.  A value follows its
option as the next argument, or is attached to it: after an equals sign, or right behind the letter.
Letters of options without values can be run together.  A value that begins with a dash has to be
attached, unless it is the dash alone.  Two dashes alone end the options, and nothing may follow,
since no tool here takes other arguments.

Reading yields tokens from left to right and ends at the first fault, so that an option which ends
the run by itself wins over any fault behind it.
-/

namespace TicksAndWidths.Command

variable {κ : Type}

/-- How an option is written. -/
structure OptionSpec (κ : Type) where
  /-- What the option means. -/
  key : κ
  long : String
  letter : Option Char := none
  takesValue : Bool := false
deriving Repr

/-- What is found on a command line. -/
inductive Token (κ : Type) where
  /-- An option without a value. -/
  | flag (key : κ)
  /-- An option with its value. -/
  | value (key : κ) (text : String)
  /-- Something that does not belong there. -/
  | fault
deriving DecidableEq, Repr

/-- Tokens, and the option that still waits for its value. -/
abbrev Pending (κ : Type) := List (Token κ) × Option κ

/-- Reads letters that are run together. -/
def readLetters (options : List (OptionSpec κ)) : List Char → Pending κ
  | [] => ([], none)
  | c :: rest =>
    match options.find? (·.letter = some c) with
    | none => ([.fault], none)
    | some spec =>
      if spec.takesValue then
        match rest with
        | [] => ([], some spec.key)
        | '=' :: attached => ([.value spec.key (String.ofList attached)], none)
        | attached => ([.value spec.key (String.ofList attached)], none)
      else
        let (tokens, pending) := readLetters options rest
        (.flag spec.key :: tokens, pending)

/-- Reads a long option, with its value if one is attached. -/
def readLong (options : List (OptionSpec κ)) (text : List Char) : Pending κ :=
  let name := String.ofList (text.takeWhile (· ≠ '='))
  let attached? : Option String :=
    match text.dropWhile (· ≠ '=') with
    | [] => none
    | _ :: attached => some (String.ofList attached)
  match options.find? (·.long = name) with
  | none => ([.fault], none)
  | some spec =>
    match attached?, spec.takesValue with
    | some attached, true => ([.value spec.key attached], none)
    | none, true => ([], some spec.key)
    | none, false => ([.flag spec.key], none)
    | some _, false => ([.fault], none)

/-- Reads one argument that is not the value of the option before it. -/
def readArgument (options : List (OptionSpec κ)) (argument : List Char) : Pending κ :=
  match argument with
  | '-' :: '-' :: name => readLong options name
  | '-' :: c :: rest => readLetters options (c :: rest)
  | _ => ([.fault], none)

/-- Whether an argument can be the value of the option before it. -/
def isPlain (argument : String) : Bool :=
  argument = "-" ∨ argument.toList.head? ≠ some '-'

/-- Reads arguments, when an option may still wait for its value. -/
def readArguments (options : List (OptionSpec κ)) : Option κ → List String → List (Token κ)
  | none, [] => []
  | some _, [] => [.fault]
  | some key, argument :: rest =>
    if isPlain argument then .value key argument :: readArguments options none rest
    else [.fault]
  | none, argument :: rest =>
    if argument = "--" then if rest.isEmpty then [] else [.fault]
    else
      let (tokens, pending) := readArgument options argument.toList
      tokens ++ readArguments options pending rest

/-- The tokens of a command line. -/
def tokens (options : List (OptionSpec κ)) (arguments : List String) : List (Token κ) :=
  readArguments options none arguments

/-! ### Settings -/

/-- Why a run ends before it begins. -/
inductive Stop where
  /-- The command line is not understood. -/
  | usage
  /-- The help is asked for. -/
  | help
  /-- The version is asked for. -/
  | version
deriving DecidableEq, Repr

/-- Sets what has not been set before. -/
def setOnce {α : Type} (old : Option α) (new : α) : Except Stop (Option α) :=
  match old with
  | none => .ok (some new)
  | some _ => .error .usage

/-- Raises a flag that has not been raised before. -/
def raiseOnce (flag : Bool) : Except Stop Bool :=
  if flag then .error .usage else .ok true

end TicksAndWidths.Command
