import TicksAndWidths.Font.Directory
import TicksAndWidths.Font.CharacterMap

/-!
Drafts of small fonts, and the files they are written to.

A draft holds what measuring needs: the advance widths of its glyphs and, for each encoding, the
glyphs of the codes below 256.  It is written as a font file of five tables, each padded to a
multiple of four bytes, whose directory lists them by name.
-/

namespace TicksAndWidths.Font

/-- Why a draft cannot be drawn up or written. -/
inductive DraftFault where
  /-- A character lies beyond the codes of a draft. -/
  | codeTooLarge
  /-- A glyph lies beyond the numbers that a draft maps to. -/
  | glyphTooLarge
  /-- There are more glyphs than a font can count. -/
  | tooManyGlyphs
deriving DecidableEq, Repr

/-- The fault in words. -/
def DraftFault.message : DraftFault → String
  | codeTooLarge => "format 0 covers code points below 256"
  | glyphTooLarge => "format 0 stores glyph ids below 256"
  | tooManyGlyphs => "glyph count fits in u16"

/-- The glyphs of the codes below 256 in one encoding. -/
structure DraftMap where
  encoding : Encoding
  glyphs : Vector UInt8 256
deriving DecidableEq, Repr

/-- A font in the making. -/
structure Draft where
  /-- The width of `.notdef`, which every draft has. -/
  notdefWidth : UInt16 := 500
  /-- The widths of the other glyphs. -/
  widths : Array UInt16 := #[]
  /-- The maps, in the order in which their encodings were first used. -/
  maps : List DraftMap := []

namespace Draft

/-- The number of design units to the em square of every draft. -/
def unitsPerEm : UInt16 := 1000

/-- The widths of all glyphs. -/
def allWidths (draft : Draft) : List UInt16 :=
  draft.notdefWidth :: draft.widths.toList

/-! ### Drawing up a draft -/

/-- One step in drawing up a draft. -/
inductive Step where
  /-- Sets the width of `.notdef`. -/
  | notdefWidth (width : UInt16)
  /-- Appends a glyph of that width. -/
  | glyph (width : UInt16)
  /-- Maps a character to a glyph in an encoding. -/
  | map (encoding : Encoding) (ch : Char) (glyph : UInt16)
deriving DecidableEq, Repr

/-- The encoding of a map when none is named: the first plane on the Unicode platform. -/
def defaultEncoding : Encoding := ⟨0, 3⟩

/-- Sets the glyph of a code in the map of an encoding, which is appended if it is not there. -/
def setCode (encoding : Encoding) (code : Fin 256) (glyph : UInt8) : List DraftMap → List DraftMap
  | [] => [{ encoding, glyphs := (Vector.replicate 256 0).set code glyph }]
  | map :: rest =>
    if map.encoding = encoding then { map with glyphs := map.glyphs.set code glyph } :: rest
    else map :: setCode encoding code glyph rest

/-- Takes one step. -/
def apply (draft : Draft) : Step → Except DraftFault Draft
  | .notdefWidth width => .ok { draft with notdefWidth := width }
  | .glyph width => .ok { draft with widths := draft.widths.push width }
  | .map encoding ch glyph =>
    if h : ch.toNat < 256 then
      if glyph < 256 then
        .ok { draft with maps := setCode encoding ⟨ch.toNat, h⟩ glyph.toUInt8 draft.maps }
      else .error .glyphTooLarge
    else .error .codeTooLarge

/-- The draft after some steps. -/
def ofSteps (steps : List Step) : Except DraftFault Draft :=
  steps.foldlM apply {}

/-- A draft with one glyph beside `.notdef`, to which `A` is mapped, while `B` is mapped to a glyph
that does not exist. -/
def sampleSteps : List Step :=
  [.glyph 600, .map defaultEncoding 'A' 1, .map defaultEncoding 'B' 7]

/-! ### Writing -/

/-- A number in two bytes. -/
def u16 (n : UInt16) : List UInt8 :=
  [(n >>> 8).toUInt8, n.toUInt8]

/-- A number in four bytes. -/
def u32 (n : UInt32) : List UInt8 :=
  [(n >>> 24).toUInt8, (n >>> 16).toUInt8, (n >>> 8).toUInt8, n.toUInt8]

/-- So many zero bytes. -/
def zeros (count : Nat) : List UInt8 :=
  List.replicate count 0

/-- The number of bytes of a map. -/
def mapSize : Nat := 6 + 256

/-- A map as a subtable of format 0. -/
def mapBytes (map : DraftMap) : List UInt8 :=
  u16 0 ++ u16 (UInt16.ofNat mapSize) ++ u16 0 ++ map.glyphs.toList

/-- Where the `k`-th of so many maps begins in its table. -/
def mapOffset (count k : Nat) : Nat :=
  4 + 8 * count + mapSize * k

/-- The record of the `k`-th of so many maps. -/
def mapRecord (count : Nat) (map : DraftMap) (k : Nat) : List UInt8 :=
  u16 map.encoding.platform ++ u16 map.encoding.encoding
    ++ u32 (UInt32.ofNat (mapOffset count k))

/-- The table of character maps. -/
def cmap (draft : Draft) : List UInt8 :=
  let count := draft.maps.length
  u16 0 ++ u16 (UInt16.ofNat count)
    ++ (draft.maps.zipIdx.flatMap fun (map, k) => mapRecord count map k)
    ++ draft.maps.flatMap mapBytes

/-- The font header. -/
def head : List UInt8 :=
  u32 0x00010000 -- version
    ++ u32 0x00010000 -- revision
    ++ u32 0 -- checksum adjustment
    ++ u32 0x5f0f3cf5 -- magic number
    ++ u16 0 -- flags
    ++ u16 unitsPerEm
    ++ zeros 16 -- created, modified
    ++ zeros 8 -- bounding box
    ++ u16 0 -- style
    ++ u16 8 -- smallest readable size
    ++ u16 2 -- direction
    ++ u16 0 -- format of glyph locations
    ++ u16 0 -- format of glyph data

/-- The horizontal header, with as many metric records as there are glyphs. -/
def hhea (draft : Draft) : List UInt8 :=
  u32 0x00010000 -- version
    ++ u16 800 -- ascender
    ++ u16 0xff38 -- descender, 200 below the line
    ++ u16 0 -- line gap
    ++ u16 (draft.allWidths.foldl max 0) -- greatest advance width
    ++ zeros 6 -- bearings, extent
    ++ u16 1 -- rise of the caret
    ++ zeros 4 -- run and offset of the caret
    ++ zeros 8 -- reserved
    ++ u16 0 -- format of metrics
    ++ u16 (UInt16.ofNat draft.allWidths.length)

/-- The horizontal metrics: every width with a bearing of zero. -/
def hmtx (draft : Draft) : List UInt8 :=
  draft.allWidths.flatMap fun width => u16 width ++ u16 0

/-- The maximum profile. -/
def maxp (draft : Draft) : List UInt8 :=
  u32 0x00005000 ++ u16 (UInt16.ofNat draft.allWidths.length)

/-- The tables of a draft, in the order of their names. -/
def tables (draft : Draft) : List (TableName × List UInt8) :=
  [(.cmap, draft.cmap), (.head, head), (.hhea, draft.hhea), (.hmtx, draft.hmtx),
   (.maxp, draft.maxp)]

/-- The least multiple of four that is not less than a length. -/
def paddedLength (length : Nat) : Nat :=
  (length + 3) / 4 * 4

/-- The bytes of a table up to the beginning of the next. -/
def pad (bytes : List UInt8) : List UInt8 :=
  bytes ++ zeros (paddedLength bytes.length - bytes.length)

/-- The directory records of tables that follow each other from an offset on. -/
def tableRecords (offset : Nat) : List (TableName × List UInt8) → List UInt8
  | [] => []
  | (name, bytes) :: rest =>
    u32 name.tag ++ u32 0 ++ u32 (UInt32.ofNat offset) ++ u32 (UInt32.ofNat bytes.length)
      ++ tableRecords (offset + paddedLength bytes.length) rest

/-- The number of bytes before the first of so many tables. -/
def directorySize (count : Nat) : Nat :=
  12 + 16 * count

/-- The font file of a draft. -/
def write (draft : Draft) : Except DraftFault (List UInt8) :=
  if draft.allWidths.length < 65536 then
    let tables := draft.tables
    .ok (u32 0x00010000
      ++ u16 5 -- number of tables
      ++ u16 64 ++ u16 2 ++ u16 16 -- for searching the directory by halving
      ++ tableRecords (directorySize tables.length) tables
      ++ tables.flatMap fun table => pad table.2)
  else .error .tooManyGlyphs

/-- The font file after some steps. -/
def bytesOfSteps (steps : List Step) : Except DraftFault ByteArray := do
  return ⟨(← (← ofSteps steps).write).toArray⟩

end Draft

end TicksAndWidths.Font
