import TicksAndWidths.Font.Charmap.ByteTable
import TicksAndWidths.Font.Charmap.Groups
import TicksAndWidths.Font.Charmap.HighByte
import TicksAndWidths.Font.Charmap.Run
import TicksAndWidths.Font.Charmap.Segments

/-!
Character maps of a font.

A font has a list of maps, each for a platform and an encoding and in one of several formats.  A map
lists the codes that it covers and gives each code at most one glyph; the two need not agree, since
some formats list codes that have no glyph.  The list of maps ends at the first record that cannot be
read.
-/

namespace TicksAndWidths.Font

/-- The platform and the encoding that a character map is made for. -/
structure Encoding where
  platform : UInt16
  encoding : UInt16
deriving DecidableEq, Repr

namespace Charmap

/-- How codes are mapped to glyphs. -/
inductive Mapping where
  | byteTable (map : ByteTable)
  | highByte (map : HighByte)
  | segments (map : Segments)
  | run (map : Run)
  | sequential (map : SequentialGroups)
  | shared (map : SharedGroups)
  /-- A format that is known and covers nothing. -/
  | unsupported
deriving DecidableEq

namespace Mapping

/-- Whether the records of a subtable of format 14 are all there. -/
def hasVariationRecords (table : Window) : Bool :=
  match table.u32? 6 with
  | some count => 10 + 11 * count.toNat ≤ table.size
  | none => false

/-- Reads a subtable by its format. -/
def ofTable? (table : Window) : Option Mapping := do
  let format ← table.u16? 0
  match format with
  | 0 => return .byteTable (← ByteTable.ofTable? table)
  | 2 => return .highByte (← HighByte.ofTable? table)
  | 4 => return .segments (← Segments.ofTable? table)
  | 6 => return .run (← Run.ofShortTable? table)
  | 8 => return .unsupported
  | 10 => return .run (← Run.ofLongTable? table)
  | 12 => return .sequential { groups := (← Group.listOfTable? table).toArray }
  | 13 => return .shared { groups := ← Group.listOfTable? table }
  | 14 => if hasVariationRecords table then return .unsupported else none
  | _ => none

/-- The codes that a map lists. -/
def codes : Mapping → List Nat
  | byteTable map => map.codes
  | highByte map => map.codes
  | segments map => map.codes
  | run map => map.codes
  | sequential map => map.codes
  | shared map => map.codes
  | unsupported => []

/-- The glyph of a code. -/
def glyph? : Mapping → Nat → Option UInt16
  | byteTable map, code => map.glyph? code
  | highByte map, code => map.glyph? code
  | segments map, code => map.glyph? code
  | run map, code => map.glyph? code
  | sequential map, code => map.glyph? code
  | shared map, code => map.glyph? code
  | unsupported, _ => none

end Mapping

end Charmap

/-- A character map of a font. -/
structure Charmap where
  encoding : Encoding
  mapping : Charmap.Mapping
deriving DecidableEq

namespace Charmap

/-- The greatest platform number that is known. -/
def maxPlatform : UInt16 := 4

/-- Reads the map that a record of the character map table points to. -/
def ofRecord? (table : Window) (i : Nat) : Option Charmap := do
  let platform ← table.u16? i
  guard (platform ≤ maxPlatform)
  let encoding ← table.u16? (i + 2)
  let offset ← table.u32? (i + 4)
  let mapping ← Mapping.ofTable? (← table.drop? offset.toNat)
  return { encoding := { platform, encoding }, mapping }

/-- Reads maps at the given positions, up to the first that cannot be read. -/
def readable (table : Window) : List Nat → List Charmap
  | [] => []
  | i :: rest =>
    match ofRecord? table i with
    | some map => map :: readable table rest
    | none => []

/-- Reads the character map table. -/
def listOfTable? (table : Window) : Option (List Charmap) := do
  let count ← table.u16? 2
  guard (4 + 8 * count.toNat ≤ table.size)
  return readable table ((List.range count.toNat).map fun k => 4 + 8 * k)

end Charmap

end TicksAndWidths.Font
