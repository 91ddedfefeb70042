import Mathlib.Tactic
import TicksAndWidths.Font.Measure
import TicksAndWidths.Proofs.Font.Windows

/-!
What opening a font file establishes of its face.

* `Face.Sound`: a face has a glyph, and its widths cover all of its glyphs or none.
  `Face.sound_of_ofBytes`: every face that can be read from bytes is sound.
* `FontFile.ofBytes_eq_ok_iff`: a file is opened exactly when a face can be read from its bytes.
* `FontFile.exists_face`: **a file that was opened can be read again**, and its face is sound, so
  the file measures as that face does (`FontFile.lookup_of_face`).
-/

namespace TicksAndWidths.Font

namespace Face

variable {face : Face}

/-- A face with a glyph, whose widths cover all glyphs or none. -/
structure Sound (face : Face) : Prop where
  glyphCount_pos : 0 < face.glyphCount.toNat
  isSome_advance? : ∀ glyph < face.glyphCount.toNat,
    (face.advance? glyph).isSome = (face.advance? 0).isSome

/-- The widths that a table gives cover every glyph of the font. -/
lemma isSome_width?_of_ofTable? {table : Window} {records glyphs : Nat} {advances : Advances}
    (h : Advances.ofTable? table records glyphs = some advances) {glyph : Nat}
    (hglyph : glyph < max records glyphs) : (advances.width? glyph).isSome := by
  simp only [Advances.ofTable?, bind, Option.bind_eq_some_iff, pure, Option.some.injEq,
    Option.guard_eq_some'] at h
  obtain ⟨-, hrecords, own, hown, rfl⟩ := h
  have hpos : own ≠ [] := by
    intro hnil
    have := Window.length_of_records? hown
    rw [hnil] at this
    exact hrecords this.symm
  rw [Advances.width?, if_pos hglyph, Option.isSome_or]
  simp [hpos]

lemma toNat_pos_of_readGlyphCount? {maxp : Window} {count : UInt16}
    (h : readGlyphCount? maxp = some count) : 0 < count.toNat := by
  simp only [readGlyphCount?, bind, Option.bind_eq_some_iff, pure, Option.some.injEq,
    Option.guard_eq_some'] at h
  obtain ⟨_, -, _, -, _, -, _, hne, rfl⟩ := h
  exact Nat.pos_of_ne_zero fun h0 => hne (UInt16.toNat_inj.mp h0)

/-- A face is read exactly from its three required tables; the others may be absent. -/
lemma ofDirectory_eq_ok_iff {directory : Directory} :
    ofDirectory directory = .ok face
      ↔ ∃ unitsPerEm metricCount glyphCount,
          (directory.table? .head).bind readUnits? = some unitsPerEm
          ∧ (directory.table? .hhea).bind readMetricCount? = some metricCount
          ∧ (directory.table? .maxp).bind readGlyphCount? = some glyphCount
          ∧ face = {
              unitsPerEm
              glyphCount
              advances := (directory.table? .hmtx).bind fun table =>
                Advances.ofTable? table metricCount.toNat glyphCount.toNat
              storedNames := (directory.table? .post).bind StoredNames.ofTable?
              charmaps := (directory.table? .cmap).bind Charmap.listOfTable? } := by
  constructor
  · intro h
    rw [ofDirectory] at h
    split at h
    case h_2 => cases h
    next unitsPerEm hunits =>
    split at h
    case h_2 => cases h
    next metricCount hmetrics =>
    split at h
    case h_2 => cases h
    next glyphCount hglyphs =>
    cases h
    exact ⟨unitsPerEm, metricCount, glyphCount, hunits, hmetrics, hglyphs, rfl⟩
  · rintro ⟨unitsPerEm, metricCount, glyphCount, hunits, hmetrics, hglyphs, rfl⟩
    simp only [ofDirectory, hunits, hmetrics, hglyphs]
    rfl

lemma sound_of_ofDirectory {directory : Directory} (h : ofDirectory directory = .ok face) :
    face.Sound := by
  obtain ⟨_, metricCount, glyphCount, -, -, hglyphs, rfl⟩ := ofDirectory_eq_ok_iff.mp h
  obtain ⟨maxp, -, hcount⟩ := Option.bind_eq_some_iff.mp hglyphs
  refine ⟨toNat_pos_of_readGlyphCount? hcount, fun glyph hglyph => ?_⟩
  simp only [advance?]
  cases hadv : (directory.table? .hmtx).bind fun table =>
      Advances.ofTable? table metricCount.toNat glyphCount.toNat with
  | none => rfl
  | some advances =>
      obtain ⟨table, -, htable⟩ := Option.bind_eq_some_iff.mp hadv
      have hlt : glyph < glyphCount.toNat := hglyph
      have hall : ∀ g < glyphCount.toNat, (advances.width? g).isSome := fun g hg =>
        isSome_width?_of_ofTable? htable (by omega)
      simp [hall glyph hlt, hall 0 (by omega)]

/-- A face that is read from bytes has a glyph, and its widths cover all of its glyphs or none. -/
theorem sound_of_ofBytes {bytes : ByteArray} (h : ofBytes bytes = .ok face) : face.Sound := by
  rw [ofBytes] at h
  cases hdir : Directory.ofFile (Window.ofBytes bytes) with
  | error fault => simp [hdir] at h
  | ok directory => exact sound_of_ofDirectory (by simpa [hdir] using h)

end Face

namespace FontFile

variable {file : FontFile} {face : Face}

/-! ### Reading a file again -/

lemma face_eq_ok_iff : file.face.outcome = .ok face ↔ Face.ofBytes file.bytes = .ok face := by
  cases h : Face.ofBytes file.bytes <;> simp [FontFile.face, h, Except.mapError]

/-- A file is opened exactly when a face can be read from its bytes, and it keeps the bytes. -/
lemma ofBytes_eq_ok_iff {bytes : ByteArray} :
    (ofBytes bytes).outcome = .ok file
      ↔ file.bytes = bytes ∧ ∃ face, Face.ofBytes bytes = .ok face := by
  obtain ⟨kept⟩ := file
  cases h : Face.ofBytes bytes with
  | error fault => simp [ofBytes, FontFile.face, h, Except.mapError]
  | ok face => simp [ofBytes, FontFile.face, h, Except.mapError, eq_comm]

/-- **A file that was opened can be read again**, and its face is sound. -/
theorem exists_face {bytes : ByteArray} (opened : (ofBytes bytes).outcome = .ok file) :
    ∃ face, file.face.outcome = .ok face ∧ face.Sound := by
  obtain ⟨rfl, face, hface⟩ := ofBytes_eq_ok_iff.mp opened
  exact ⟨face, face_eq_ok_iff.mpr hface, Face.sound_of_ofBytes hface⟩

/-- Reading a face logs nothing, so what follows it is all that happens. -/
lemma face_bind (hface : file.face.outcome = .ok face) {α : Type}
    (f : Face → Logged GlyphError α) : file.face >>= f = f face := by
  rw [show file.face = .ofExcept (.ok face) from congrArg Logged.ofExcept hface]
  rfl

lemma mapAndGlyphs_of_face (hface : file.face.outcome = .ok face) :
    file.mapAndGlyphs = face.mapAndGlyphs :=
  face_bind hface Face.mapAndGlyphs

/-- A file answers as its face does. -/
lemma lookup_of_face (hface : file.face.outcome = .ok face) (ch : Char) :
    file.lookup ch = face.lookup ch :=
  face_bind hface fun face => face.lookup ch

end FontFile

end TicksAndWidths.Font
