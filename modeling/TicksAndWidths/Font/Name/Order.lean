import Std.Data.TreeMap
import TicksAndWidths.Font.Face
import TicksAndWidths.Text.Numeral

/-!
The names by which glyphs are told apart.

Glyph 0 is `.notdef`.  Every other glyph goes by its stored name, or by its number when it has none.
A name that came before is followed by the number of times it came before.
-/

namespace TicksAndWidths.Font

open Text

/-- The name of the glyph that stands for missing ones. -/
def notdefName : String := ".notdef"

/-- The name of a glyph that has none: the word "glyph" and its number in five digits or more. -/
def fallbackName (glyph : Nat) : String :=
  if glyph = 0 then notdefName else "glyph" ++ String.ofList ((decimal glyph).leftpad 5 '0')

/-- The name of a glyph before names are told apart. -/
def Face.baseName (face : Face) (glyph : Nat) : String :=
  if glyph = 0 then notdefName else (face.storedName? glyph).getD (fallbackName glyph)

/-- A name that came `count` times before. -/
def numbered (base : String) (count : Nat) : String :=
  if count = 0 then base else base ++ "#" ++ toString count

/-- Numbers the repeated names of a list, when `seen` says how often each came before. -/
def numberRepeats (seen : Std.TreeMap String Nat) : List String → List String
  | [] => []
  | base :: rest =>
    let count := seen.getD base 0
    numbered base count :: numberRepeats (seen.insert base (count + 1)) rest

/-- The names of all glyphs, in the order of the glyphs. -/
def Face.glyphNames (face : Face) : List String :=
  numberRepeats ∅ ((List.range face.glyphCount.toNat).map face.baseName)

end TicksAndWidths.Font
