import TicksAndWidths.Font.Window

/-!
The table directory of a font file.

A file holds one font or a collection of fonts, of which the first is read.  A font begins with a
magic number and a directory of its tables.  Where the directory lists a table twice, the later
record counts; a record that points outside the file stands for no table.
-/

namespace TicksAndWidths.Font

/-- Why a file is not a font that can be measured. -/
inductive FaceFault where
  /-- The file does not begin like a font. -/
  | unknownMagic
  /-- The file ends inside its directory. -/
  | malformed
  /-- The collection is empty. -/
  | emptyCollection
  /-- There is no usable font header. -/
  | noHead
  /-- There is no usable horizontal header. -/
  | noHhea
  /-- There is no usable maximum profile. -/
  | noMaxp
deriving DecidableEq, Repr

/-- The fault in words. -/
def FaceFault.message : FaceFault → String
  | unknownMagic => "unknown magic"
  | malformed => "malformed font"
  | emptyCollection => "face index is out of bounds"
  | noHead => "the head table is missing or malformed"
  | noHhea => "the hhea table is missing or malformed"
  | noMaxp => "the maxp table is missing or malformed"

/-- The tables that matter for measuring. -/
inductive TableName where
  /-- Character to glyph mapping. -/
  | cmap
  /-- Font header. -/
  | head
  /-- Horizontal header. -/
  | hhea
  /-- Horizontal metrics. -/
  | hmtx
  /-- Maximum profile. -/
  | maxp
  /-- Glyph names. -/
  | post
deriving DecidableEq, Repr

/-- The four letters of a table's name, as one number. -/
def TableName.tag : TableName → UInt32
  | cmap => 0x636d6170
  | head => 0x68656164
  | hhea => 0x68686561
  | hmtx => 0x686d7478
  | maxp => 0x6d617870
  | post => 0x706f7374

/-- One record of a table directory. -/
structure TableRecord where
  tag : UInt32
  offset : UInt32
  length : UInt32
deriving DecidableEq, Repr

/-- A font file and the directory of its tables. -/
structure Directory where
  file : Window
  records : List TableRecord

namespace Directory

/-- The magic number of a collection. -/
def collectionMagic : UInt32 := 0x74746366

/-- The magic numbers of a single font. -/
def fontMagics : List UInt32 := [0x00010000, 0x74727565, 0x4f54544f]

/-- Where the first font of a collection begins. -/
def collectionStart (file : Window) : Except FaceFault Nat := do
  let some count := file.u32? 8 | throw .malformed
  let listEnd := 12 + 4 * count.toNat
  if file.size < listEnd then throw .malformed
  if count = 0 then throw .emptyCollection
  let some start := file.u32? 12 | throw .malformed
  if start.toNat < listEnd ∨ file.size < start.toNat then throw .malformed
  return start.toNat

/-- Where the font of a file begins. -/
def fontStart (file : Window) : Except FaceFault Nat := do
  if file.u32? 0 = some collectionMagic then collectionStart file else return 0

/-- One record of the directory. -/
def record? (file : Window) (i : Nat) : Option TableRecord := do
  return { tag := ← file.u32? i, offset := ← file.u32? (i + 8), length := ← file.u32? (i + 12) }

/-- Reads the directory of a font file. -/
def ofFile (file : Window) : Except FaceFault Directory := do
  let start ← fontStart file
  match file.u32? start with
  | some magic => if magic ∉ fontMagics then throw .unknownMagic
  | none => throw .unknownMagic
  let some count := file.u16? (start + 4) | throw .malformed
  let some records := file.records? (start + 12) count.toNat 16 (record? file)
    | throw .malformed
  return { file, records }

/-- The bytes of a table. -/
def table? (directory : Directory) (name : TableName) : Option Window := do
  let record ← directory.records.reverse.find? (·.tag = name.tag)
  directory.file.slice? record.offset.toNat record.length.toNat

end Directory

end TicksAndWidths.Font
