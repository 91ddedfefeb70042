import Std.Data.TreeMap
import TicksAndWidths.Font.Name.Order
import TicksAndWidths.Log

/-!
From the names of glyphs to their metrics.
-/

namespace TicksAndWidths.Font

/-- The horizontal metrics of a glyph. -/
structure GlyphMetrics where
  glyph : UInt16
  /-- The advance width in design units. -/
  width : UInt16
deriving DecidableEq, Repr

/-- The metrics of the glyphs that have a name. -/
structure GlyphSet where
  metrics : Std.TreeMap String GlyphMetrics := ∅

namespace GlyphSet

/-- Stores the metrics of a name, whatever was stored before. -/
def insert (set : GlyphSet) (name : String) (metrics : GlyphMetrics) : GlyphSet :=
  { metrics := set.metrics.insert name metrics }

/-- Stores metrics in turn. -/
def ofList (pairs : List (String × GlyphMetrics)) : GlyphSet :=
  pairs.foldl (fun set pair => set.insert pair.1 pair.2) {}

/-- The metrics of a name. -/
def get? (set : GlyphSet) (name : String) : Option GlyphMetrics :=
  set.metrics[name]?

/-- The number of names that have metrics. -/
def size (set : GlyphSet) : Nat :=
  set.metrics.size

/-- Whether no name has metrics. -/
def isEmpty (set : GlyphSet) : Bool :=
  set.metrics.isEmpty

/-- An insertion shows at its name and nowhere else. -/
@[simp] theorem get?_insert (set : GlyphSet) (name k : String) (metrics : GlyphMetrics) :
    (set.insert name metrics).get? k = if name = k then some metrics else set.get? k := by
  simp [get?, insert, Std.TreeMap.getElem?_insert]

end GlyphSet

/-! ### The glyphs of a face -/

/-- The metrics of the glyphs that have an advance width, under their names in `order`.  Names
beyond the glyphs and glyphs beyond the names are left out. -/
def Face.namedMetrics (face : Face) (order : List String) : List (String × GlyphMetrics) :=
  ((List.range face.glyphCount.toNat).zip order).filterMap fun (glyph, name) =>
    (face.advance? glyph).map fun width => (name, { glyph := UInt16.ofNat glyph, width })

/-- The glyph set of a face, whose glyphs are named by `order`. -/
def Face.glyphSet {ε : Type} (face : Face) (order : List String) : Logged ε GlyphSet := do
  let set := GlyphSet.ofList (face.namedMetrics order)
  .write .debug .font ("Collected advance widths for " ++ toString set.size ++ " glyphs")
  return set

end TicksAndWidths.Font
