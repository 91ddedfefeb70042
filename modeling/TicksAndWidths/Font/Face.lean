import TicksAndWidths.Font.Advances
import TicksAndWidths.Font.Charmap.Basic
import TicksAndWidths.Font.Directory
import TicksAndWidths.Font.Name.Stored

/-!
Faces: what a font file says about the widths of its glyphs and the characters they stand for.

A face needs a font header, a horizontal header and a maximum profile.  The other tables may be
absent or damaged, and then say nothing.

Names and widths are those of the names table and of the horizontal metrics.  Left out are the glyph
names of PostScript outlines (`CFF`), although `Directory.fontMagics` admits the fonts that have
them (`OTTO`), and the deltas by which a variable font may change its advance widths (`HVAR`,
`gvar`).
-/

namespace TicksAndWidths.Font

/-- A font as far as measuring needs it. -/
structure Face where
  /-- The number of design units to the em square. -/
  unitsPerEm : UInt16
  glyphCount : UInt16
  advances : Option Advances
  storedNames : Option StoredNames
  /-- The character maps, if there is a table of them. -/
  charmaps : Option (List Charmap)
deriving DecidableEq

namespace Face

/-- The design units of a font header. -/
def readUnits? (head : Window) : Option UInt16 := do
  guard (54 ≤ head.size)
  let units ← head.u16? 18
  let locations ← head.u16? 50
  guard (16 ≤ units ∧ units ≤ 16384 ∧ locations ≤ 1)
  return units

/-- The number of metric records that a horizontal header announces. -/
def readMetricCount? (hhea : Window) : Option UInt16 := do
  guard (36 ≤ hhea.size)
  hhea.u16? 34

/-- The number of glyphs of a maximum profile. -/
def readGlyphCount? (maxp : Window) : Option UInt16 := do
  let version ← maxp.u32? 0
  guard (version = 0x00005000 ∨ version = 0x00010000)
  let count ← maxp.u16? 4
  guard (count ≠ 0)
  return count

/-- Reads a face from the tables of a font. -/
def ofDirectory (directory : Directory) : Except FaceFault Face := do
  let some unitsPerEm := (directory.table? .head).bind readUnits? | throw .noHead
  let some metricCount := (directory.table? .hhea).bind readMetricCount? | throw .noHhea
  let some glyphCount := (directory.table? .maxp).bind readGlyphCount? | throw .noMaxp
  return {
    unitsPerEm
    glyphCount
    advances := (directory.table? .hmtx).bind fun table =>
      Advances.ofTable? table metricCount.toNat glyphCount.toNat
    storedNames := (directory.table? .post).bind StoredNames.ofTable?
    charmaps := (directory.table? .cmap).bind Charmap.listOfTable? }

/-- Reads the face of a font file. -/
def ofBytes (bytes : ByteArray) : Except FaceFault Face := do
  ofDirectory (← Directory.ofFile (Window.ofBytes bytes))

/-- The advance width of a glyph in the horizontal metrics. -/
def advance? (face : Face) (glyph : Nat) : Option UInt16 := do
  (← face.advances).width? glyph

/-- The name of a glyph in the names table. -/
def storedName? (face : Face) (glyph : Nat) : Option String := do
  (← face.storedNames).name? glyph

end Face

end TicksAndWidths.Font
