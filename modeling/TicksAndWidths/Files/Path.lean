/-!
Names of files, as they are written: components between slashes.
-/

namespace TicksAndWidths.Files.Path

/-- Whether a name starts at the root. -/
def isAbsolute (path : String) : Bool :=
  path.toList.head? = some '/'

/-- The name of `path` as seen from the directory `base`.  Nothing is resolved: one slash is put
between the two unless the first ends in one or is empty. -/
def join (base path : String) : String :=
  if isAbsolute path then path
  else if base.isEmpty ∨ base.toList.getLast? = some '/' then base ++ path
  else base ++ "/" ++ path

/-- The parts of a name between its slashes, some of which may be empty. -/
def components (path : String) : List String :=
  (path.toList.splitOn '/').map String.ofList

end TicksAndWidths.Files.Path
