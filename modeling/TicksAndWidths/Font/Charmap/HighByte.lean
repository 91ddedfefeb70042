import TicksAndWidths.Font.Window

/-!
Character maps of format 2: codes of one or two bytes, sorted by their high byte.

Each high byte has a key that chooses a subheader.  Subheader 0 serves codes of one byte; any other
covers a stretch of low bytes.  The glyphs of a stretch stand at a distance that is counted from
the field which holds it.
-/

namespace TicksAndWidths.Font.Charmap

/-- A stretch of low bytes. -/
structure Subheader where
  /-- The first low byte of the stretch. -/
  first : Nat
  /-- The number of low bytes in the stretch. -/
  count : Nat
  /-- What is added to a glyph of the stretch. -/
  delta : Int
  /-- The distance from this field to the glyphs of the stretch. -/
  distance : Nat
deriving DecidableEq, Repr

/-- A map from codes of one or two bytes. -/
structure HighByte where
  table : Window
  /-- The subheader of each high byte. -/
  choices : Array Nat
  subheaders : Array Subheader
deriving DecidableEq

namespace HighByte

/-- Where the subheaders begin: after three two-byte fields and 256 keys. -/
def subheaderStart : Nat := 518

/-- The number of bytes of a subheader. -/
def subheaderSize : Nat := 8

/-- One subheader. -/
def subheader? (table : Window) (i : Nat) : Option Subheader := do
  let first ← table.u16? i
  let count ← table.u16? (i + 2)
  let delta ← table.u16? (i + 4)
  let distance ← table.u16? (i + 6)
  return { first := first.toNat, count := count.toNat, delta := delta.toInt16.toInt,
           distance := distance.toNat }

/-- Reads a subtable of format 2.  There are as many subheaders as the largest choice needs. -/
def ofTable? (table : Window) : Option HighByte := do
  let keys ← table.u16s? 6 256
  let choices := keys.map fun key => key.toNat / 8
  let subheaders ← table.records? subheaderStart (choices.foldl max 0 + 1) subheaderSize
    (subheader? table)
  return { table, choices := choices.toArray, subheaders := subheaders.toArray }

/-- The subheader that serves a code. -/
def choice? (map : HighByte) (code : Nat) : Option Nat :=
  if code < 255 then some 0 else map.choices[code / 256]?

/-- The glyph of a code. -/
def glyph? (map : HighByte) (code : Nat) : Option UInt16 := do
  guard (code < 65536)
  let choice ← map.choice? code
  let sub ← map.subheaders[choice]?
  let low := code % 256
  guard (sub.first + sub.count < 65536 ∧ sub.first ≤ low ∧ low < sub.first + sub.count)
  let field := subheaderStart + subheaderSize * choice + 6
  let glyph ← map.table.u16? (field + sub.distance + 2 * (low - sub.first))
  guard (glyph ≠ 0)
  let shifted := Int.tmod (glyph.toNat + sub.delta) 65536
  guard (0 ≤ shifted)
  return UInt16.ofNat shifted.toNat

/-- The codes of one high byte, and whether none of them overflows. -/
def codesOf (map : HighByte) (high : Nat) : List Nat × Bool :=
  match map.choices[high]?.bind fun choice => map.subheaders[choice]?.map (choice, ·) with
  | none => ([], false)
  | some (0, sub) =>
    if sub.first + sub.count < 65536 then
      (if sub.first ≤ high ∧ high < sub.first + sub.count then [high] else [], true)
    else ([], false)
  | some (_, sub) =>
    let base := 256 * high + sub.first
    (List.range' base (min sub.count (65536 - base)), base < 65536 ∧ base + sub.count ≤ 65536)

/-- The codes of a list of high bytes, up to the first overflow. -/
def codesFrom (map : HighByte) : List Nat → List Nat
  | [] => []
  | high :: rest =>
    let (codes, fits) := map.codesOf high
    if fits then codes ++ codesFrom map rest else codes

/-- The codes that the map lists, high byte by high byte, up to the first overflow. -/
def codes (map : HighByte) : List Nat :=
  map.codesFrom (List.range 256)

end HighByte

end TicksAndWidths.Font.Charmap
