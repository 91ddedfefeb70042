import TicksAndWidths.Font.Window

/-!
Advance widths.

The horizontal metrics begin with one record of four bytes for each of the first glyphs, the first
two bytes of which are the glyph's advance width.  All glyphs after these share the width of the
last record.
-/

namespace TicksAndWidths.Font

/-- The advance widths of a font. -/
structure Advances where
  /-- The widths of the glyphs that have a record. -/
  own : Array UInt16
  /-- The number of glyphs that have a width, be it their own or the shared one. -/
  covered : Nat
deriving DecidableEq, Repr

namespace Advances

/-- Reads the widths of a font with so many records and so many glyphs. -/
def ofTable? (table : Window) (records glyphs : Nat) : Option Advances := do
  guard (records ≠ 0)
  let own ← table.records? 0 records 4 table.u16?
  return { own := own.toArray, covered := max records glyphs }

/-- The width of a glyph. -/
def width? (advances : Advances) (glyph : Nat) : Option UInt16 :=
  if glyph < advances.covered then advances.own[glyph]?.or advances.own.back? else none

end Advances

end TicksAndWidths.Font
