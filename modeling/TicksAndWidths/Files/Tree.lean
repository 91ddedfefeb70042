import TicksAndWidths.Files.Failure
import TicksAndWidths.Files.Path

/-!
A tree of files, and how names are looked up in it.

Places in the tree are lists of components from the root.  A name is followed component by
component: every step needs a directory to start from, a dot stays there, two dots lead to the
parent, and anything else has to be an entry.  A name that ends in a slash has to be a directory,
since its last component is empty.
-/

namespace TicksAndWidths.Files

/-- A place in a tree: the components on the way to it from the root. -/
abbrev Place := List String

/-- What stands at a place. -/
inductive Item where
  | file (contents : ByteArray)
  | directory

/-- A tree of files with a working directory.  The directories on the way to an entry, and to the
working directory, are there without being listed. -/
structure Tree where
  workingDirectory : Place
  entries : List (Place × Item)

namespace Tree

/-- The greatest number of bytes in one component of a name. -/
def maxComponent : Nat := 255

/-- The number of bytes from which on a whole name is too long. -/
def maxPath : Nat := 4096

/-- The item at a place. -/
def item? (tree : Tree) (place : Place) : Option Item :=
  match tree.entries.find? (·.1 = place) with
  | some (_, item) => some item
  | none =>
    if place.isPrefixOf tree.workingDirectory ∨ tree.entries.any (place.isPrefixOf ·.1) then
      some .directory
    else none

/-- Follows one component of a name from a place. -/
def step (tree : Tree) (place : Place) (component : String) : Except Failure Place :=
  match tree.item? place with
  | none => .error .notFound
  | some (.file _) => .error .notADirectory
  | some .directory =>
    if component = "" ∨ component = "." then .ok place
    else if component = ".." then .ok place.dropLast
    else if component.utf8ByteSize > maxComponent then .error .nameTooLong
    else
      let next := place ++ [component]
      if (tree.item? next).isSome then .ok next else .error .notFound

/-- The place that a name leads to. -/
def resolve (tree : Tree) (path : String) : Except Failure Place :=
  if path.isEmpty then .error .notFound
  else if path.utf8ByteSize ≥ maxPath then .error .nameTooLong
  else
    let start := if Path.isAbsolute path then [] else tree.workingDirectory
    (Path.components path).foldlM tree.step start

/-- Reads the file that a name leads to. -/
def read (tree : Tree) : Disk := fun path => do
  if '\x00' ∈ path.toList then throw .nulInName
  match tree.item? (← tree.resolve path) with
  | some (.file contents) => return contents
  | some .directory => throw .isADirectory
  | none => throw .notFound

end Tree

end TicksAndWidths.Files
