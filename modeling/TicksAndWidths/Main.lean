import TicksAndWidths.Command.DurationTable
import TicksAndWidths.Command.GlyphWidth

/-!
The program: its first argument names the tool, and the others are the tool's own.
-/

namespace TicksAndWidths

/-- The cause of a failed read, as far as it can be told apart. -/
def Files.Failure.ofSystem : IO.Error → Files.Failure
  | .noFileOrDirectory .. => .notFound
  | .inappropriateType .. => .isADirectory
  | .permissionDenied .. => .permissionDenied
  | .invalidArgument .. => .nameTooLong
  | .noSuchThing .. => .notADirectory
  | _ => .notFound

/-- Reads one file of the system, so that it stands for a disk that holds no other. -/
def diskWith (path : Option String) : IO Files.Disk := do
  match path with
  | none => return fun _ => .error .notFound
  | some path =>
    let contents ← (Except.ok <$> IO.FS.readBinFile path).catchExceptions fun error =>
      pure (.error (Files.Failure.ofSystem error))
    return fun asked => if asked = path then contents else .error .notFound

/-- Runs the named tool. -/
def runTool (arguments : List String) : IO Command.Outcome := do
  match arguments with
  | "duration-table" :: rest =>
    return Command.DurationTable.run (← diskWith (Command.DurationTable.fileRead? rest)) rest
  | "glyph-width" :: rest =>
    let directory := (← IO.currentDir).toString
    let disk ← diskWith (Command.GlyphWidth.fileRead? directory rest)
    return Command.GlyphWidth.run disk directory rest
  | _ =>
    return { code := 2, output := "", messages := "usage: duration-table | glyph-width [OPTIONS]\n" }

end TicksAndWidths

def main (arguments : List String) : IO UInt32 := do
  let outcome ← TicksAndWidths.runTool arguments
  IO.eprint outcome.messages
  IO.print outcome.output
  return outcome.code
