import TicksAndWidths.Font.Window

/-!
Character maps of format 4: segments of codes below 65536.

A segment gives its glyphs by adding a number to the code, or stores them at a distance that is
counted from the field which holds it.  A code is looked up by halving, on the assumption that the
segments ascend.
-/

namespace TicksAndWidths.Font.Charmap

/-- A segment of codes. -/
structure Segment where
  first : Nat
  last : Nat
  /-- What is added to the code, or to the stored glyph. -/
  delta : UInt16
  /-- The distance from this field to the stored glyphs; 0 if none are stored. -/
  distance : UInt16
deriving DecidableEq, Repr

/-- A map by segments. -/
structure Segments where
  table : Window
  segments : Array Segment
deriving DecidableEq

namespace Segments

/-- Where the distances of so many segments begin. -/
def distanceStart (count : Nat) : Nat :=
  16 + 6 * count

/-- One segment out of so many. -/
def segment? (table : Window) (count k : Nat) : Option Segment := do
  let last ← table.u16? (14 + 2 * k)
  let first ← table.u16? (16 + 2 * count + 2 * k)
  let delta ← table.u16? (16 + 4 * count + 2 * k)
  let distance ← table.u16? (distanceStart count + 2 * k)
  return { first := first.toNat, last := last.toNat, delta, distance }

/-- Reads a subtable of format 4. -/
def ofTable? (table : Window) : Option Segments := do
  let doubled ← table.u16? 6
  guard (2 ≤ doubled)
  let count := doubled.toNat / 2
  let segments ← (List.range count).mapM (segment? table count)
  return { table, segments := segments.toArray }

/-- Looks for the segment of a code between two positions by halving. -/
def search (segments : Array Segment) (code low high : Nat) : Option Nat :=
  if low < high then
    let middle := (low + high) / 2
    match segments[middle]? with
    | none => none
    | some segment =>
      if segment.last < code then search segments code (middle + 1) high
      else if code < segment.first then search segments code low middle
      else some middle
  else none
termination_by high - low

/-- The glyph that a segment stores for a code.  Positions are counted modulo 65536. -/
def stored? (map : Segments) (k : Nat) (segment : Segment) (code : Nat) : Option UInt16 := do
  let steps := 2 * (code - segment.first)
  guard (steps < 65536)
  let field := distanceStart map.segments.size + 2 * k
  let glyph ← map.table.u16? ((field + segment.distance.toNat + steps) % 65536)
  guard (glyph ≠ 0)
  let shifted := glyph + segment.delta
  guard (shifted < 32768)
  return shifted

/-- The glyph of a code.  A distance of 65535 marks a segment without glyphs. -/
def glyph? (map : Segments) (code : Nat) : Option UInt16 := do
  guard (code < 65536)
  let k ← search map.segments code 0 map.segments.size
  let segment ← map.segments[k]?
  if segment.distance = 0 then return UInt16.ofNat code + segment.delta
  else if segment.distance = 0xffff then none
  else map.stored? k segment code

/-- Whether a segment marks the end of the list. -/
def isEnd (segment : Segment) : Bool :=
  segment.first = 0xffff ∧ segment.last = 0xffff

/-- The codes that the map lists, segment by segment up to the end mark. -/
def codes (map : Segments) : List Nat :=
  (map.segments.toList.takeWhile (!isEnd ·)).flatMap fun segment =>
    List.range' segment.first (segment.last + 1 - segment.first)

end Segments

end TicksAndWidths.Font.Charmap
