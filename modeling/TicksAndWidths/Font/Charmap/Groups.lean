import TicksAndWidths.Font.Window

/-!
Character maps of formats 12 and 13: groups of codes of four bytes.

In format 12 the codes of a group have consecutive glyphs, and a code is looked up by halving, on the
assumption that the groups ascend.  In format 13 all codes of a group share one glyph, and the first
group that holds a code answers.  Glyph 0 counts as a glyph here.
-/

namespace TicksAndWidths.Font.Charmap

/-- A group of codes. -/
structure Group where
  first : Nat
  last : Nat
  /-- The glyph of the first code, or of all of them. -/
  glyph : Nat
deriving DecidableEq, Repr

namespace Group

/-- Whether a group holds a code. -/
def holds (group : Group) (code : Nat) : Bool :=
  group.first ≤ code ∧ code ≤ group.last

/-- The codes of a group. -/
def codes (group : Group) : List Nat :=
  List.range' group.first (group.last + 1 - group.first)

/-- One group. -/
def ofTable? (table : Window) (i : Nat) : Option Group := do
  let first ← table.u32? i
  let last ← table.u32? (i + 4)
  let glyph ← table.u32? (i + 8)
  return { first := first.toNat, last := last.toNat, glyph := glyph.toNat }

/-- Reads the groups of a subtable. -/
def listOfTable? (table : Window) : Option (List Group) := do
  let count ← table.u32? 12
  table.records? 16 count.toNat 12 (Group.ofTable? table)

end Group

/-- A number as a glyph, unless it is too large. -/
def glyphOfNat? (n : Nat) : Option UInt16 :=
  if n < 65536 then some (UInt16.ofNat n) else none

/-! ### Consecutive glyphs -/

/-- Groups whose codes have consecutive glyphs. -/
structure SequentialGroups where
  groups : Array Group
deriving DecidableEq, Repr

namespace SequentialGroups

/-- Narrows `size` groups from `base` on down to the one that may hold a code. -/
def search (groups : Array Group) (code base size : Nat) : Option Group :=
  if 1 < size then
    let half := size / 2
    match groups[base + half]? with
    | none => none
    | some group =>
      search groups code (if code < group.first then base else base + half) (size - half)
  else if size = 1 then groups[base]?
  else none
termination_by size

/-- The glyph of a code.  The sum of glyph and code must fit in four bytes. -/
def glyph? (map : SequentialGroups) (code : Nat) : Option UInt16 := do
  let group ← search map.groups code 0 map.groups.size
  guard (group.holds code)
  guard (group.glyph + code < 4294967296)
  glyphOfNat? (group.glyph + code - group.first)

/-- The codes that the map lists, group by group. -/
def codes (map : SequentialGroups) : List Nat :=
  map.groups.toList.flatMap Group.codes

end SequentialGroups

/-! ### One glyph a group -/

/-- Groups whose codes share one glyph. -/
structure SharedGroups where
  groups : List Group
deriving DecidableEq, Repr

namespace SharedGroups

/-- The glyph of a code. -/
def glyph? (map : SharedGroups) (code : Nat) : Option UInt16 := do
  let group ← map.groups.find? (·.holds code)
  glyphOfNat? group.glyph

/-- The codes that the map lists, group by group. -/
def codes (map : SharedGroups) : List Nat :=
  map.groups.flatMap Group.codes

end SharedGroups

end TicksAndWidths.Font.Charmap
