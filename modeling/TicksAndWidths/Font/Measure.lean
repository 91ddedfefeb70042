import TicksAndWidths.Font.CharacterMap
import TicksAndWidths.Font.GlyphSet
import TicksAndWidths.Font.Source
import TicksAndWidths.Text.Escaped

/-!
Measuring characters.

A character is measured as the glyph that it is mapped to.  If it is not mapped, or its glyph has no
metrics, it is measured as `.notdef`; a font without metrics for that glyph measures nothing then.

A font file keeps its bytes.  They are decoded when the file is opened, which fails if they are not
a font, and once more for every character that is measured.
-/

namespace TicksAndWidths.Font

open Text

/-- Why a character cannot be measured. -/
inductive GlyphError where
  /-- There are no bytes of a font. -/
  | source (cause : SourceError)
  /-- The bytes are not a font. -/
  | malformed (fault : FaceFault)
  /-- The font has no metrics for `.notdef`. -/
  | noNotdefGlyph
deriving DecidableEq, Repr

/-- The cause in words. -/
def GlyphError.message : GlyphError → String
  | source cause => "Font source error: " ++ cause.message
  | malformed fault => "Failed to parse font: " ++ fault.message
  | noNotdefGlyph => "Font defines no '.notdef' glyph to fall back on"

/-- The answer for one character. -/
structure Hit where
  character : Char
  /-- The name of the glyph that was measured. -/
  name : String
  glyph : UInt16
  width : UInt16
  /-- Whether `.notdef` was measured in place of the character's own glyph. -/
  fallback : Bool
deriving DecidableEq, Repr

/-- A code point in the usual notation. -/
def codePointText (codePoint : Nat) : String :=
  "U+" ++ String.ofList (upperHex 4 codePoint)

/-- The answer on one line. -/
def Hit.display (hit : Hit) : String :=
  Escaped.ofChar hit.character ++ " (" ++ codePointText hit.character.toNat ++ ") -> " ++ hit.name
    ++ " (gid " ++ toString hit.glyph ++ ") width " ++ toString hit.width
    ++ if hit.fallback then " [fallback]" else ""

/-! ### Resolving a character -/

/-- The answer of the glyph that a character is mapped to. -/
def directHit? (map : CharacterMap) (set : GlyphSet) (ch : Char) : Option Hit := do
  let name ← map.get? ch.toNat
  let metrics ← set.get? name
  return { character := ch, name, glyph := metrics.glyph, width := metrics.width, fallback := false }

/-- Why the glyph of a character does not answer. -/
def missText (map : CharacterMap) (ch : Char) : String :=
  match map.get? ch.toNat with
  | some name => "Glyph '" ++ name ++ "' for " ++ codePointText ch.toNat ++ " has no metrics"
  | none => codePointText ch.toNat ++ " is not in the character map"

/-- The answer of `.notdef`. -/
def fallbackHit? (set : GlyphSet) (ch : Char) : Option Hit := do
  let metrics ← set.get? notdefName
  return { character := ch, name := notdefName, glyph := metrics.glyph, width := metrics.width,
           fallback := true }

/-- The answer for a character. -/
def resolve (map : CharacterMap) (set : GlyphSet) (ch : Char) : Logged GlyphError Hit := do
  match directHit? map set ch with
  | some hit => return hit
  | none =>
    .write .debug .measuring (missText map ch)
    match fallbackHit? set ch with
    | some hit => return hit
    | none => .fail .noNotdefGlyph

/-- The width of a character. -/
def glyphWidth (map : CharacterMap) (set : GlyphSet) (ch : Char) : Logged GlyphError UInt16 := do
  return (← resolve map set ch).width

/-! ### Measuring with a face -/

/-- The character map and the glyph set of a face, under the same names. -/
def Face.mapAndGlyphs {ε : Type} (face : Face) : Logged ε (CharacterMap × GlyphSet) := do
  let names := face.glyphNames
  let map ← face.characterMap names.toArray
  let set ← face.glyphSet names
  return (map, set)

/-- The answer of a face for a character. -/
def Face.lookup (face : Face) (ch : Char) : Logged GlyphError Hit := do
  let (map, set) ← face.mapAndGlyphs
  let hit ← resolve map set ch
  .write .info .measuring hit.display
  return hit

/-! ### Measuring with a font file -/

/-- A font file.  It keeps the bytes alone: the face is read from them whenever it is needed. -/
structure FontFile where
  bytes : ByteArray

namespace FontFile

/-- Reads the face of a font file. -/
def face (file : FontFile) : Logged GlyphError Face :=
  .ofExcept ((Face.ofBytes file.bytes).mapError GlyphError.malformed)

/-- Keeps the bytes of a font if a face can be read from them. -/
def ofBytes (bytes : ByteArray) : Logged GlyphError FontFile := do
  let file : FontFile := { bytes }
  let face ← file.face
  .write .debug .font
    ("Parsed font: " ++ toString face.glyphCount ++ " glyphs, " ++ toString face.unitsPerEm
      ++ " units per em")
  return file

/-- The character map and the glyph set of a font file, whose face is read once more for them. -/
def mapAndGlyphs (file : FontFile) : Logged GlyphError (CharacterMap × GlyphSet) := do
  (← file.face).mapAndGlyphs

/-- The answer of a font file for a character.  The face is read once more for it. -/
def lookup (file : FontFile) (ch : Char) : Logged GlyphError Hit := do
  (← file.face).lookup ch

end FontFile

/-- Opens a font file and reads its face. -/
def openFont (bytes : ByteArray) : Logged GlyphError Face := do
  (← FontFile.ofBytes bytes).face

/-- A font file as it is shown for inspection. -/
def describeFont (bytes : ByteArray) : String :=
  "FontResource \x7b data_len: " ++ toString bytes.size ++ " \x7d"

/-- Opens the font file of that name from a source. -/
def loadFont (source : Source) (path : String) : Logged GlyphError FontFile := do
  .write .debug .font ("Loading font '" ++ path ++ "' via " ++ source.label)
  let bytes ← (source.load path).mapError .source
  FontFile.ofBytes bytes

/-- What is asked of a font. -/
structure Request where
  path : String := "src/fonts/Retro Gaming.ttf"
  character : Char := 'A'
deriving DecidableEq, Repr

/-- Measures a character with a font of a source. -/
def measure (source : Source) (request : Request) : Logged GlyphError Hit := do
  (← loadFont source request.path).lookup request.character

end TicksAndWidths.Font
