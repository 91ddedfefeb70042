import TicksAndWidths.Font.Name.Macintosh
import TicksAndWidths.Font.Window

/-!
The glyph names that a font stores.

Version 2 of the names table gives each glyph a number.  A number within the standard order stands
for the name there; the numbers after it count the strings at the end of the table, each of which is
preceded by its length.  The strings end for good at one that is empty, cut off, or not UTF-8.
-/

namespace TicksAndWidths.Font

/-- The glyph names that a font stores. -/
structure StoredNames where
  /-- The number that each glyph refers to. -/
  numbers : Array UInt16 := #[]
  /-- The strings after the standard order. -/
  strings : Array String := #[]
deriving DecidableEq, Repr

namespace StoredNames

/-- The strings from a position on. -/
def stringsFrom (table : Window) (i : Nat) : List String :=
  match _ : table.byte? i with
  | none => []
  | some length =>
    if length = 0 then []
    else
      match (table.slice? (i + 1) length.toNat).bind Window.text? with
      | none => []
      | some name => name :: stringsFrom table (i + 1 + length.toNat)
termination_by table.size - i
decreasing_by
  have read : table.byte? i = some length := by assumption
  simp only [Window.byte?] at read
  split at read
  · omega
  · cases read

/-- The versions of the names table. -/
def versions : List UInt32 := [0x00010000, 0x00020000, 0x00025000, 0x00030000, 0x00040000]

/-- Reads the names table.  Of its versions only the second has names of its own. -/
def ofTable? (table : Window) : Option StoredNames := do
  guard (32 ≤ table.size)
  let version ← table.u32? 0
  guard (version ∈ versions)
  if version = 0x00020000 then
    let count ← table.u16? 32
    let numbers ← table.u16s? 34 count.toNat
    let strings := stringsFrom table (34 + 2 * count.toNat)
    return { numbers := numbers.toArray, strings := strings.toArray }
  else return {}

/-- The stored name of a glyph. -/
def name? (names : StoredNames) (glyph : Nat) : Option String := do
  let number ← names.numbers[glyph]?
  if number.toNat < macintoshNames.size then macintoshNames[number.toNat]?
  else names.strings[number.toNat - macintoshNames.size]?

end StoredNames

end TicksAndWidths.Font
