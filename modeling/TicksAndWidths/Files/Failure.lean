/-!
Why a file cannot be read.

A failure that the system reports has a number; a name that cannot be passed to the system and a
text that is not UTF-8 have none.
-/

namespace TicksAndWidths.Files

/-- The cause of a failed read. -/
inductive Failure where
  /-- Nothing has that name. -/
  | notFound
  /-- The name leads through something that is not a directory. -/
  | notADirectory
  /-- The name is that of a directory. -/
  | isADirectory
  /-- The name, or one of its components, is too long. -/
  | nameTooLong
  /-- The file may not be read by this user. -/
  | permissionDenied
  /-- The name holds a NUL. -/
  | nulInName
  /-- The contents are not UTF-8 text. -/
  | notText
deriving DecidableEq, Repr

namespace Failure

/-- The number of a failure that the system reports. -/
def number? : Failure → Option Nat
  | notFound => some 2
  | permissionDenied => some 13
  | notADirectory => some 20
  | isADirectory => some 21
  | nameTooLong => some 36
  | nulInName => none
  | notText => none

/-- The cause in words. -/
def description : Failure → String
  | notFound => "No such file or directory"
  | permissionDenied => "Permission denied"
  | notADirectory => "Not a directory"
  | isADirectory => "Is a directory"
  | nameTooLong => "File name too long"
  | nulInName => "file name contained an unexpected NUL byte"
  | notText => "stream did not contain valid UTF-8"

/-- The cause in words, followed by its number if it has one. -/
def message (failure : Failure) : String :=
  match failure.number? with
  | some n => failure.description ++ " (os error " ++ toString n ++ ")"
  | none => failure.description

end Failure

/-- A way to read files: the contents of the file of that name, or why it cannot be read. -/
abbrev Disk := String → Except Failure ByteArray

/-- Reads a file of text. -/
def Disk.readText (disk : Disk) (path : String) : Except Failure String := do
  let contents ← disk path
  match String.fromUTF8? contents with
  | some text => return text
  | none => throw .notText

end TicksAndWidths.Files
