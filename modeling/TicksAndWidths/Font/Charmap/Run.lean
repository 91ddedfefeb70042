import TicksAndWidths.Font.Window

/-!
Character maps of formats 6 and 10: the glyphs of one run of codes.

The two formats differ in how wide their numbers are, and so in where the codes end.  Glyph 0 counts
as a glyph here.
-/

namespace TicksAndWidths.Font.Charmap

/-- The glyphs of consecutive codes. -/
structure Run where
  /-- The first code. -/
  first : Nat
  glyphs : Array UInt16
  /-- The codes end before this number. -/
  bound : Nat
deriving DecidableEq, Repr

namespace Run

/-- Reads a subtable of format 6. -/
def ofShortTable? (table : Window) : Option Run := do
  let first ← table.u16? 6
  let count ← table.u16? 8
  let glyphs ← table.u16s? 10 count.toNat
  return { first := first.toNat, glyphs := glyphs.toArray, bound := 65536 }

/-- Reads a subtable of format 10. -/
def ofLongTable? (table : Window) : Option Run := do
  let first ← table.u32? 12
  let count ← table.u32? 16
  let glyphs ← table.u16s? 20 count.toNat
  return { first := first.toNat, glyphs := glyphs.toArray, bound := 4294967296 }

/-- The glyph of a code. -/
def glyph? (map : Run) (code : Nat) : Option UInt16 := do
  guard (map.first ≤ code ∧ code < map.bound)
  map.glyphs[code - map.first]?

/-- The codes of the run, as far as they go. -/
def codes (map : Run) : List Nat :=
  List.range' map.first (min map.glyphs.size (map.bound - map.first))

end Run

end TicksAndWidths.Font.Charmap
