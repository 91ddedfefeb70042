import Mathlib.Tactic
import TicksAndWidths.Proofs.Draft.Layout
import TicksAndWidths.Proofs.Font.Faces
import TicksAndWidths.Proofs.Font.Stores

/-!
The face of a draft's file.

* `readUnits?_of_toList`, `readMetricCount?_of_toList`, `readGlyphCount?_of_toList`,
  `ofTable?_of_toList`: the tables of a draft are read back.
* `Reads`: a character map of a font says what a map of a draft says.  `ofRecord?_of_shows` reads
  one map back and `exists_charmaps` all of them.
* `Renders`: a face says what a draft says.  `exists_renders`: **the file of a draft has a face that
  renders it.**
-/

namespace TicksAndWidths.Font.Draft

open Window

variable {draft : Draft} {window : Window}

/-! ### Headers and metrics -/

lemma readUnits?_of_toList (h : window.toList = head) :
    Face.readUnits? window = some unitsPerEm := by
  have hshows := shows_of_toList_eq h
  have hsize : 54 ≤ window.size := hshows.le_size
  have hunits : window.u16? 18 = some unitsPerEm :=
    u16?_of_shows hshows.left.left.left.left.left.left.left.right
  have hlocations : window.u16? 50 = some 0 := u16?_of_shows hshows.left.right
  simp [Face.readUnits?, hsize, hunits, hlocations, unitsPerEm]

lemma readMetricCount?_of_toList (h : window.toList = draft.hhea) :
    Face.readMetricCount? window = some (UInt16.ofNat draft.allWidths.length) := by
  have hshows := shows_of_toList_eq h
  have hsize : 36 ≤ window.size := hshows.le_size
  have hcount : window.u16? 34 = some (UInt16.ofNat draft.allWidths.length) :=
    u16?_of_shows hshows.right
  simp [Face.readMetricCount?, hsize, hcount]

lemma toNat_ofNat_length_allWidths (hglyphs : draft.allWidths.length < 65536) :
    (UInt16.ofNat draft.allWidths.length).toNat = draft.allWidths.length :=
  UInt16.toNat_ofNat_of_lt' hglyphs

lemma readGlyphCount?_of_toList (h : window.toList = draft.maxp)
    (hglyphs : draft.allWidths.length < 65536) :
    Face.readGlyphCount? window = some (UInt16.ofNat draft.allWidths.length) := by
  have hshows := shows_of_toList_eq h
  have hversion : window.u32? 0 = some 0x00005000 := u32?_of_shows hshows.left
  have hcount : window.u16? 4 = some (UInt16.ofNat draft.allWidths.length) :=
    u16?_of_shows hshows.right
  have hne : UInt16.ofNat draft.allWidths.length ≠ 0 := by
    intro hzero
    have := toNat_ofNat_length_allWidths hglyphs
    rw [hzero] at this
    simp [allWidths] at this
  simp [Face.readGlyphCount?, hversion, hcount, hne]

/-- The metrics of a draft are read back. -/
lemma ofTable?_of_toList (h : window.toList = draft.hmtx) :
    Advances.ofTable? window draft.allWidths.length draft.allWidths.length
      = some { own := draft.allWidths.toArray, covered := draft.allWidths.length } := by
  have hwidth : ∀ width ∈ draft.allWidths, (u16 width ++ u16 0).length = 4 := fun _ _ => rfl
  have hread := records?_of_shows hwidth (fun _ _ _ hrecord => u16?_of_shows hrecord.left)
    (shows_of_toList_eq h)
  rw [List.map_id'] at hread
  have hne : draft.allWidths ≠ [] := List.cons_ne_nil _ _
  simp [Advances.ofTable?, hread, hne]

/-- The widths of as many records as there are glyphs are those of the glyphs. -/
lemma width?_eq_getElem? (widths : List UInt16) (glyph : Nat) :
    Advances.width? { own := widths.toArray, covered := widths.length } glyph = widths[glyph]? := by
  rw [Advances.width?]
  by_cases h : glyph < widths.length
  · simp [h]
  · simp [h]

/-! ### Character maps -/

/-- The glyph of a code in a map of a draft, where glyph 0 stands for none. -/
def glyphOf? (map : DraftMap) (code : Nat) : Option UInt16 := do
  let glyph ← map.glyphs[code]?
  guard (glyph ≠ 0)
  return glyph.toUInt16

/-- A character map of a font says what a map of a draft says. -/
def Reads (charmap : Charmap) (map : DraftMap) : Prop :=
  charmap.encoding = map.encoding ∧ charmap.listed? = glyphOf? map

lemma lt_of_isSome_glyphOf? {map : DraftMap} {code : Nat} (h : (glyphOf? map code).isSome) :
    code < 256 := by
  by_contra hle
  simp [glyphOf?, hle] at h

/-- A subtable of format 0 lists the codes that have a glyph. -/
lemma listed?_byteTable {encoding : Encoding} {table : Charmap.ByteTable} {map : DraftMap}
    (h : table.glyphs.toList = map.glyphs.toList) :
    Charmap.listed? { encoding, mapping := .byteTable table } = glyphOf? map := by
  have hglyph : ∀ code, table.glyph? code = glyphOf? map code := by
    intro code
    rw [Charmap.ByteTable.glyph?, byte?_eq_getElem?, h, glyphOf?, Vector.getElem?_toList]
  funext code
  show (if code ∈ table.codes then table.glyph? code else none) = _
  by_cases hcode : code ∈ table.codes
  · rw [if_pos hcode, hglyph]
  · -- a code that is not listed has no glyph
    rw [if_neg hcode, eq_comm, ← Option.not_isSome_iff_eq_none]
    intro hsome
    refine hcode (List.mem_filter.mpr ⟨List.mem_range.mpr (lt_of_isSome_glyphOf? hsome), ?_⟩)
    rw [hglyph, hsome]

/-- A map is read back where its record and its subtable stand. -/
lemma ofRecord?_of_shows {i count k : Nat} {map : DraftMap}
    (hrecord : window.Shows i (mapRecord count map k))
    (hmap : window.Shows (mapOffset count k) (mapBytes map))
    (hoffset : mapOffset count k < UInt32.size)
    (hplatform : map.encoding.platform ≤ Charmap.maxPlatform) :
    ∃ charmap, Charmap.ofRecord? window i = some charmap ∧ Reads charmap map := by
  have hread : window.u16? i = some map.encoding.platform := u16?_of_shows hrecord.left.left
  have hencoding : window.u16? (i + 2) = some map.encoding.encoding :=
    u16?_of_shows hrecord.left.right
  have hposition : window.u32? (i + 4) = some (UInt32.ofNat (mapOffset count k)) :=
    u32?_of_shows hrecord.right
  have hfits : mapOffset count k ≤ window.size := Nat.le_of_add_right_le hmap.le_size
  obtain ⟨rest, hrest⟩ := exists_drop? hfits
  have hbytes : rest.Shows 0 (mapBytes map) := Shows.of_drop? hrest hmap
  have hformat : rest.u16? 0 = some 0 := u16?_of_shows hbytes.left.left.left
  obtain ⟨glyphs, hslice, hlist⟩ := exists_slice?_of_shows hbytes.right
  have hslice' : rest.slice? 6 Charmap.ByteTable.codeCount = some glyphs := by
    rwa [Vector.length_toList] at hslice
  have htable : Charmap.ByteTable.ofTable? rest = some { glyphs } := by
    rw [Charmap.ByteTable.ofTable?, hslice']
    rfl
  have hmapping : Charmap.Mapping.ofTable? rest = some (.byteTable { glyphs }) := by
    simp [Charmap.Mapping.ofTable?, hformat, htable]
  refine ⟨{ encoding := map.encoding, mapping := .byteTable { glyphs } }, ?_, rfl,
    listed?_byteTable hlist⟩
  have htoNat : (UInt32.ofNat (mapOffset count k)).toNat = mapOffset count k :=
    UInt32.toNat_ofNat_of_lt' hoffset
  simp [Charmap.ofRecord?, hread, hplatform, hencoding, hposition, htoNat, hrest, hmapping]

/-- Maps at positions that can all be read are read in turn. -/
lemma readable_of_forall₂ {positions : List Nat} {charmaps : List Charmap}
    (h : List.Forall₂ (fun i charmap => Charmap.ofRecord? window i = some charmap) positions
      charmaps) : Charmap.readable window positions = charmaps := by
  induction h with
  | nil => rfl
  | cons hread _ ih => simp only [Charmap.readable, hread, ih]

/-- **The maps of a draft are read back**, all of them and in their order. -/
theorem exists_charmaps (h : window.toList = draft.cmap) (hmaps : draft.maps.length < 65536)
    (hplatform : ∀ map ∈ draft.maps, map.encoding.platform ≤ Charmap.maxPlatform) :
    ∃ charmaps, Charmap.listOfTable? window = some charmaps
      ∧ List.Forall₂ Reads charmaps draft.maps := by
  have hread : ∀ x ∈ draft.maps.zipIdx, ∃ charmap,
      Charmap.ofRecord? window (4 + 8 * x.2) = some charmap ∧ Reads charmap x.1 := by
    rintro ⟨map, k⟩ hx
    obtain ⟨hk, rfl⟩ := List.getElem?_eq_some_iff.mp (List.mk_mem_zipIdx_iff_getElem?.mp hx)
    obtain ⟨hrecord, hmap⟩ := shows_map_of_shows (shows_of_toList_eq h) hk
    rw [Nat.zero_add] at hrecord hmap
    exact ofRecord?_of_shows hrecord hmap (mapOffset_lt hmaps hk)
      (hplatform _ (List.getElem_mem hk))
  obtain ⟨charmaps, hcharmaps⟩ := exists_forall₂ hread
  have hpositions : (List.range draft.maps.length).map (fun k => 4 + 8 * k)
      = draft.maps.zipIdx.map fun x => 4 + 8 * x.2 := by
    rw [List.range_eq_range', ← List.zipIdx_map_snd 0 draft.maps, List.map_map]
    rfl
  refine ⟨charmaps, ?_, ?_⟩
  · have hcount : window.u16? 2 = some (UInt16.ofNat draft.maps.length) :=
      u16?_of_shows (shows_of_toList_eq h).left.left.right
    have htoNat : (UInt16.ofNat draft.maps.length).toNat = draft.maps.length :=
      UInt16.toNat_ofNat_of_lt' hmaps
    have hfits : 4 + 8 * draft.maps.length ≤ window.size := by
      rw [← window.length_toList, h, length_cmap]
      exact Nat.le_add_right _ _
    have hreadable : Charmap.readable window ((List.range draft.maps.length).map fun k => 4 + 8 * k)
        = charmaps := by
      rw [hpositions]
      exact readable_of_forall₂ (List.forall₂_map_left_iff.mpr (hcharmaps.imp fun _ _ hx => hx.1))
    simp [Charmap.listOfTable?, hcount, htoNat, hfits, hreadable]
  · rw [← List.zipIdx_map_fst 0 draft.maps, List.forall₂_map_right_iff]
    exact (hcharmaps.imp fun _ _ hx => hx.2).flip

/-! ### Faces -/

/-- A face says what a draft says. -/
structure Renders (face : Face) (draft : Draft) : Prop where
  glyphCount : face.glyphCount.toNat = draft.allWidths.length
  advance? : ∀ glyph, face.advance? glyph = draft.allWidths[glyph]?
  storedNames : face.storedNames = none
  charmaps : ∃ charmaps, face.charmaps = some charmaps ∧ List.Forall₂ Reads charmaps draft.maps

/-- The face of a draft with the character maps that were read. -/
def faceOf (draft : Draft) (charmaps : List Charmap) : Face where
  unitsPerEm := unitsPerEm
  glyphCount := UInt16.ofNat draft.allWidths.length
  advances := some { own := draft.allWidths.toArray, covered := draft.allWidths.length }
  storedNames := none
  charmaps := some charmaps

/-- **The file of a draft has a face that renders it**, if its encodings can be counted and their
platforms are known. -/
theorem exists_renders {bytes : List UInt8} (hwrite : draft.write = .ok bytes)
    (hmaps : draft.maps.length < 65536)
    (hplatform : ∀ map ∈ draft.maps, map.encoding.platform ≤ Charmap.maxPlatform) :
    ∃ face, Face.ofBytes ⟨bytes.toArray⟩ = .ok face ∧ Renders face draft := by
  have hglyphs := (write_eq_ok_iff.mp hwrite).1
  have htoNat := toNat_ofNat_length_allWidths hglyphs
  have find : ∀ {name table}, (name, table) ∈ draft.tables → ∃ window,
      (directoryOf draft bytes).table? name = some window ∧ window.toList = table :=
    exists_table?_of_write hwrite hmaps
  obtain ⟨cmapTable, hcmapTable, hcmap⟩ := find (.head _)
  obtain ⟨headTable, hheadTable, hhead⟩ := find (.tail _ (.head _))
  obtain ⟨hheaTable, hhheaTable, hhhea⟩ := find (.tail _ (.tail _ (.head _)))
  obtain ⟨hmtxTable, hhmtxTable, hhmtx⟩ := find (.tail _ (.tail _ (.tail _ (.head _))))
  obtain ⟨maxpTable, hmaxpTable, hmaxp⟩ := find (.tail _ (.tail _ (.tail _ (.tail _ (.head _)))))
  obtain ⟨charmaps, hcharmaps, hreads⟩ := exists_charmaps hcmap hmaps hplatform
  have hface : Face.ofDirectory (directoryOf draft bytes) = .ok (faceOf draft charmaps) := by
    refine Face.ofDirectory_eq_ok_iff.mpr ⟨unitsPerEm, UInt16.ofNat draft.allWidths.length,
      UInt16.ofNat draft.allWidths.length, ?_, ?_, ?_, ?_⟩
    · rw [hheadTable, Option.bind_some, readUnits?_of_toList hhead]
    · rw [hhheaTable, Option.bind_some, readMetricCount?_of_toList hhhea]
    · rw [hmaxpTable, Option.bind_some, readGlyphCount?_of_toList hmaxp hglyphs]
    · rw [hhmtxTable, hcmapTable, table?_post_of_write hwrite hmaps, Option.bind_some,
        Option.bind_some, Option.bind_none, htoNat, ofTable?_of_toList hhmtx, hcharmaps, faceOf]
  refine ⟨faceOf draft charmaps, ?_, htoNat, fun glyph => ?_, rfl, charmaps, rfl, hreads⟩
  · rw [Face.ofBytes, ofFile_of_write hwrite, Logged.ok_bind, hface]
  · exact width?_eq_getElem? draft.allWidths glyph

end TicksAndWidths.Font.Draft
