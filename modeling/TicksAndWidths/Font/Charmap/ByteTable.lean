import TicksAndWidths.Font.Window

/-!
Character maps of format 0: one glyph for each of the first 256 codes, where glyph 0 stands for none.
-/

namespace TicksAndWidths.Font.Charmap

/-- The glyphs of the codes below 256. -/
structure ByteTable where
  glyphs : Window
deriving DecidableEq

namespace ByteTable

/-- The number of codes that the table covers. -/
def codeCount : Nat := 256

/-- Reads a subtable of format 0. -/
def ofTable? (table : Window) : Option ByteTable := do
  return { glyphs := ← table.slice? 6 codeCount }

/-- The glyph of a code. -/
def glyph? (map : ByteTable) (code : Nat) : Option UInt16 := do
  let glyph ← map.glyphs.byte? code
  guard (glyph ≠ 0)
  return glyph.toUInt16

/-- The codes that have a glyph, in ascending order. -/
def codes (map : ByteTable) : List Nat :=
  (List.range codeCount).filter fun code => (map.glyph? code).isSome

end ByteTable

end TicksAndWidths.Font.Charmap
