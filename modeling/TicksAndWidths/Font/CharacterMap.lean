import Std.Data.TreeMap
import TicksAndWidths.Font.Name.Order
import TicksAndWidths.Log

/-!
From code points to the names of glyphs.

Of the character maps of a font the best is taken: maps of the whole repertoire come before maps of
its first plane, and a Windows map before the same map of the Unicode platform.
-/

namespace TicksAndWidths.Font

/-- The names of the glyphs that code points are mapped to. -/
structure CharacterMap where
  names : Std.TreeMap Nat String := ∅

namespace CharacterMap

/-- Maps a code point to a glyph, whatever it was mapped to before. -/
def insert (map : CharacterMap) (codePoint : Nat) (name : String) : CharacterMap :=
  { names := map.names.insert codePoint name }

/-- Maps code points in turn. -/
def ofList (pairs : List (Nat × String)) : CharacterMap :=
  pairs.foldl (fun map pair => map.insert pair.1 pair.2) {}

/-- The name that a code point is mapped to. -/
def get? (map : CharacterMap) (codePoint : Nat) : Option String :=
  map.names[codePoint]?

/-- The number of code points that are mapped. -/
def size (map : CharacterMap) : Nat :=
  map.names.size

/-- Whether no code point is mapped. -/
def isEmpty (map : CharacterMap) : Bool :=
  map.names.isEmpty

/-- An insertion shows at its code point and nowhere else. -/
@[simp] theorem get?_insert (map : CharacterMap) (codePoint k : Nat) (name : String) :
    (map.insert codePoint name).get? k = if codePoint = k then some name else map.get? k := by
  simp [get?, insert, Std.TreeMap.getElem?_insert]

end CharacterMap

/-! ### The best map of a face -/

/-- The encodings of Unicode maps, best first. -/
def preferredEncodings : List Encoding :=
  [⟨3, 10⟩, ⟨0, 6⟩, ⟨0, 4⟩, ⟨3, 1⟩, ⟨0, 3⟩, ⟨0, 2⟩, ⟨0, 1⟩, ⟨0, 0⟩]

/-- The first map of the best encoding that a list of maps has. -/
def bestCharmap? (charmaps : List Charmap) : Option Charmap :=
  preferredEncodings.findSome? fun encoding => charmaps.find? (·.encoding = encoding)

/-- The code points of a map that have a glyph, each with its name in `order`. -/
def Charmap.named (charmap : Charmap) (order : Array String) : List (Nat × String) :=
  charmap.mapping.codes.filterMap fun code =>
    (charmap.mapping.glyph? code).map fun glyph =>
      (code, order[glyph.toNat]?.getD (fallbackName glyph.toNat))

/-- The character map of a face, whose glyphs are named by `order`. -/
def Face.characterMap {ε : Type} (face : Face) (order : Array String) : Logged ε CharacterMap := do
  match face.charmaps with
  | none =>
    .write .warn .font "Font has no cmap table"
    return {}
  | some charmaps =>
    match bestCharmap? charmaps with
    | none =>
      .write .warn .font "Font has no Unicode cmap subtable"
      return {}
    | some charmap =>
      let map := CharacterMap.ofList (charmap.named order)
      .write .debug .font
        ("Best cmap is (" ++ toString charmap.encoding.platform ++ ", "
          ++ toString charmap.encoding.encoding ++ ") with " ++ toString map.size
          ++ " code points")
      return map

end TicksAndWidths.Font
