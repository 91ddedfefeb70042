import Mathlib.Tactic
import TicksAndWidths.Proofs.Draft.Numbers

/-!
How the file of a draft is shared out among its tables, and the table of the maps among the maps.

* `Tiles`: the tables of some records follow one another up to the end of a file, each padded with
  fewer than four zeros to a multiple of four (`PaddedTo`).  They stand at multiples of four
  (`Tiles.aligned`) and apart from each other (`Tiles.apart`).
* `tiles_records`: **padded tables tile their file**, by induction on the tables.
* `SharesOut`: the directory of a file shares it out among the tables of a draft
  (`sharesOut_of_write`).
* `MapRecord`, `DelimitsMaps`: the records in a table of maps delimit the maps of the encodings in
  use (`delimitsMaps_of_toList`).
* `tiling_of_steps`: **the file of some steps is shared out among its tables and its maps**, also
  where the steps use as many encodings as can be counted.
-/

namespace TicksAndWidths.Font

/-- Where the bytes of a table end. -/
def TableRecord.stop (record : TableRecord) : Nat :=
  record.offset.toNat + record.length.toNat

/-- A record in the table of the maps. -/
structure MapRecord where
  encoding : Encoding
  /-- Where the map begins in the table. -/
  offset : UInt32
deriving DecidableEq, Repr

namespace Draft

open Window

variable {file : Window} {start : Nat} {listed : List TableRecord}

/-! ### Tables that follow each other -/

/-- Behind a table fewer than four zeros stand before a position, which is a multiple of four. -/
structure PaddedTo (file : Window) (record : TableRecord) (next : Nat) : Prop where
  stop_le : record.stop ≤ next
  lt_stop_add : next < record.stop + 4
  dvd : 4 ∣ next
  shows : file.Shows record.stop (zeros (next - record.stop))

/-- From a position on, the tables of some records follow one another up to the end of a file. -/
def Tiles (file : Window) : Nat → List TableRecord → Prop
  | start, [] => start = file.size
  | start, record :: rest =>
    record.offset.toNat = start ∧ ∃ next, PaddedTo file record next ∧ Tiles file next rest

lemma Tiles.le_offset (h : Tiles file start listed) {record : TableRecord}
    (hrecord : record ∈ listed) : start ≤ record.offset.toNat := by
  induction listed generalizing start with
  | nil => cases hrecord
  | cons first rest ih =>
      obtain ⟨hstart, next, hpadded, hrest⟩ := h
      rcases List.mem_cons.mp hrecord with rfl | hlater
      · exact hstart.ge
      · have hnext := hpadded.stop_le
        rw [TableRecord.stop] at hnext
        have hle := ih hrest hlater
        omega

/-- Tables that tile a file from a multiple of four on stand at multiples of four. -/
lemma Tiles.aligned (h : Tiles file start listed) (hstart : 4 ∣ start) {record : TableRecord}
    (hrecord : record ∈ listed) : 4 ∣ record.offset.toNat := by
  induction listed generalizing start with
  | nil => cases hrecord
  | cons first rest ih =>
      obtain ⟨hfirst, next, hpadded, hrest⟩ := h
      rcases List.mem_cons.mp hrecord with rfl | hlater
      · rwa [hfirst]
      · exact ih hrest hpadded.dvd hlater

/-- Tables that tile a file stand apart: each ends before those behind it begin. -/
lemma Tiles.apart (h : Tiles file start listed) :
    listed.Pairwise fun record later => record.stop ≤ later.offset.toNat := by
  induction listed generalizing start with
  | nil => exact .nil
  | cons first rest ih =>
      obtain ⟨-, next, hpadded, hrest⟩ := h
      exact .cons (fun later hlater => hpadded.stop_le.trans (hrest.le_offset hlater)) (ih hrest)

/-- **Padded tables tile their file** from a multiple of four on, if nothing stands behind them. -/
theorem tiles_records (hsize : file.size < UInt32.size) {offset : Nat}
    {tables : List (TableName × List UInt8)} (hoffset : 4 ∣ offset)
    (h : file.Shows offset (tables.flatMap fun table => pad table.2))
    (hend : file.size = offset + (tables.flatMap fun table => pad table.2).length) :
    Tiles file offset (records offset tables) := by
  induction tables generalizing offset with
  | nil => exact hend.symm
  | cons table rest ih =>
      rw [List.flatMap_cons] at h hend
      rw [List.length_append, length_pad, ← Nat.add_assoc] at hend
      have hrest := h.right
      rw [length_pad] at hrest
      have htable := h.left
      rw [pad] at htable
      obtain ⟨hstart, hlength⟩ := toNat_record (htable.left.le_size.trans_lt hsize)
      have hstop : (record offset table).stop = offset + table.2.length := by
        rw [TableRecord.stop, hstart, hlength]
      -- the next table begins at the least multiple of four that is not inside this one
      have hnext : 4 ∣ offset + paddedLength table.2.length :=
        Nat.dvd_add hoffset (Nat.dvd_mul_left 4 _)
      have hpadded : table.2.length ≤ paddedLength table.2.length
          ∧ paddedLength table.2.length < table.2.length + 4 := by
        rw [paddedLength]
        omega
      refine ⟨hstart, offset + paddedLength table.2.length,
        ⟨by omega, by omega, hnext, ?_⟩, ih hnext hrest hend⟩
      rw [hstop, Nat.add_sub_add_left]
      exact htable.right

/-! ### The directory of a file -/

/-- The directory of a file shares it out among the tables of a draft. -/
structure SharesOut (file : Window) (draft : Draft) (listed : List TableRecord) : Prop where
  count : file.u16? 4 = some 5
  read : file.records? 12 5 16 (Directory.record? file) = some listed
  ascending : listed.Pairwise fun record later => record.tag < later.tag
  points : List.Forall₂ (Points file) listed draft.tables
  aligned : ∀ record ∈ listed, 4 ∣ record.offset.toNat
  apart : listed.Pairwise fun record later => record.stop ≤ later.offset.toNat
  tiles : Tiles file (12 + 5 * 16) listed

lemma map_tag_records (offset : Nat) (tables : List (TableName × List UInt8)) :
    (records offset tables).map (·.tag) = tables.map (·.1.tag) := by
  induction tables generalizing offset with
  | nil => rfl
  | cons table rest ih => rw [records, List.map_cons, List.map_cons, ih, record]

variable {draft : Draft} {bytes : List UInt8}

/-- The directory of a written file shares it out. -/
theorem sharesOut_of_write (h : draft.write = .ok bytes) (hmaps : draft.maps.length < 65536) :
    SharesOut (directoryOf draft bytes).file draft (directoryOf draft bytes).records := by
  have htiles : Tiles (directoryOf draft bytes).file (12 + 5 * 16)
      (directoryOf draft bytes).records :=
    tiles_records (size_lt_of_write h hmaps) (by decide) (shows_tables_of_write h)
      (size_of_write h)
  refine ⟨u16?_four_of_write h, records?_of_write h, ?_, forall₂_points_of_write h hmaps,
    fun record hrecord => htiles.aligned (by decide) hrecord, htiles.apart, htiles⟩
  have htags : (directoryOf draft bytes).records.map (·.tag)
      = (draft.tables.map Prod.fst).map TableName.tag := by
    rw [directoryOf, map_tag_records, List.map_map]
    rfl
  rw [← List.pairwise_map (f := TableRecord.tag), htags, map_fst_tables]
  decide

/-! ### The table of the maps -/

/-- Reads the record of a map. -/
def mapRecord? (table : Window) (i : Nat) : Option MapRecord := do
  let platform ← table.u16? i
  let encoding ← table.u16? (i + 2)
  let offset ← table.u32? (i + 4)
  return { encoding := { platform, encoding }, offset }

/-- A map of format 0 gives a glyph to every character whose code is below 256. -/
structure HoldsGlyphs (map : Window) (glyphOf : Char → UInt16) : Prop where
  format : map.u16? 0 = some 0
  length : map.u16? 2 = some 262
  glyph : ∀ ch : Char, ch.toNat < 256 →
    (map.byte? (6 + ch.toNat)).map UInt8.toUInt16 = some (glyphOf ch)

/-- The records in a table of maps delimit a map for each encoding that some steps use. -/
structure DelimitsMaps (table : Window) (steps : List Step) (listed : List MapRecord) :
    Prop where
  count : (table.u16? 2).map UInt16.toNat = some listed.length
  read : table.records? 4 listed.length 8 (mapRecord? table) = some listed
  nodup : (listed.map (·.encoding)).Nodup
  mem_encodings : ∀ encoding,
    encoding ∈ listed.map (·.encoding) ↔ encoding ∈ encodingsOf steps
  holds : ∀ record ∈ listed, ∃ map, table.slice? record.offset.toNat 262 = some map
    ∧ HoldsGlyphs map (glyphOf steps record.encoding)
  behind : ∀ record ∈ listed, 4 + 8 * listed.length ≤ record.offset.toNat
  apart : listed.Pairwise fun record later => record.offset.toNat + 262 ≤ later.offset.toNat

/-- The record of the `k`-th of so many maps. -/
def mapRecordOf (count : Nat) (map : DraftMap) (k : Nat) : MapRecord where
  encoding := map.encoding
  offset := UInt32.ofNat (mapOffset count k)

/-- The records of some maps. -/
def mapRecords (maps : List DraftMap) : List MapRecord :=
  maps.zipIdx.map fun (map, k) => mapRecordOf maps.length map k

variable {table : Window} {steps : List Step}

/-- A written record of a map is read back. -/
lemma mapRecord?_of_shows {i count k : Nat} {map : DraftMap}
    (h : table.Shows i (mapRecord count map k)) :
    mapRecord? table i = some (mapRecordOf count map k) := by
  have hplatform : table.u16? i = some map.encoding.platform := u16?_of_shows h.left.left
  have hencoding : table.u16? (i + 2) = some map.encoding.encoding := u16?_of_shows h.left.right
  have hoffset : table.u32? (i + 4) = some (UInt32.ofNat (mapOffset count k)) :=
    u32?_of_shows h.right
  simp only [mapRecord?, hplatform, hencoding, hoffset, bind, Option.bind_some, pure, mapRecordOf]

lemma length_mapRecords (maps : List DraftMap) : (mapRecords maps).length = maps.length := by
  rw [mapRecords, List.length_map, List.length_zipIdx]

lemma map_encoding_mapRecords (maps : List DraftMap) :
    (mapRecords maps).map (·.encoding) = maps.map (·.encoding) := by
  conv_rhs => rw [← List.zipIdx_map_fst 0 maps]
  rw [mapRecords, List.map_map, List.map_map]
  rfl

lemma mem_mapRecords {maps : List DraftMap} {record : MapRecord} :
    record ∈ mapRecords maps
      ↔ ∃ k, ∃ hk : k < maps.length, mapRecordOf maps.length maps[k] k = record := by
  simp only [mapRecords, List.mem_map, Prod.exists, List.mk_mem_zipIdx_iff_getElem?,
    List.getElem?_eq_some_iff]
  constructor
  · rintro ⟨map, k, ⟨hk, rfl⟩, hrecord⟩
    exact ⟨k, hk, hrecord⟩
  · rintro ⟨k, hk, hrecord⟩
    exact ⟨maps[k], k, ⟨hk, rfl⟩, hrecord⟩

/-- Where a map begins is read off its record as long as the maps can be counted. -/
lemma toNat_offset_mapRecordOf {count k : Nat} (hcount : count < 65536) (hk : k < count)
    (map : DraftMap) : (mapRecordOf count map k).offset.toNat = mapOffset count k :=
  UInt32.toNat_ofNat_of_lt' (mapOffset_lt hcount hk)

/-- The maps follow each other. -/
lemma pairwise_mapRecords {maps : List DraftMap} (hmaps : maps.length < 65536) :
    (mapRecords maps).Pairwise fun record later =>
      record.offset.toNat + 262 ≤ later.offset.toNat := by
  rw [mapRecords, List.pairwise_map, List.pairwise_iff_getElem]
  intro k l hk hl hkl
  rw [List.length_zipIdx] at hk hl
  simp only [List.getElem_zipIdx, Nat.zero_add, toNat_offset_mapRecordOf hmaps hk,
    toNat_offset_mapRecordOf hmaps hl, mapOffset, mapSize]
  omega

/-- The subtable of a map holds its glyphs. -/
lemma holdsGlyphs_of_toList {window : Window} {map : DraftMap} {glyphOf : Char → UInt16}
    (h : window.toList = mapBytes map)
    (hglyphs : ∀ ch : Char, (map.glyphs[ch.toNat]?.getD 0).toUInt16 = glyphOf ch) :
    HoldsGlyphs window glyphOf := by
  have hshows := shows_of_toList_eq h
  refine ⟨u16?_of_shows hshows.left.left.left, u16?_of_shows hshows.left.left.right,
    fun ch hch => ?_⟩
  have hbyte : window.byte? (6 + ch.toNat) = some map.glyphs[ch.toNat] :=
    (hshows.right.byte? (by simpa using hch)).trans (congrArg some (Vector.getElem_toList _))
  rw [hbyte, Option.map_some, ← hglyphs, Vector.getElem?_eq_getElem hch, Option.getD_some]

/-- **The records in the table of a draft's maps delimit its maps.** -/
theorem delimitsMaps_of_toList (h : table.toList = draft.cmap) (hreflects : Reflects draft steps)
    (hmaps : draft.maps.length < 65536) : DelimitsMaps table steps (mapRecords draft.maps) where
  count := by
    have hcount : table.u16? 2 = some (UInt16.ofNat draft.maps.length) :=
      u16?_of_shows (shows_of_toList_eq h).left.left.right
    rw [hcount, Option.map_some, UInt16.toNat_ofNat_of_lt' hmaps, length_mapRecords]
  read := by
    have hread := records?_of_shows (fun x _ => length_mapRecord _ x.1 x.2)
      (fun _ _ _ hrecord => mapRecord?_of_shows hrecord) (shows_of_toList_eq h).left.right
    rw [List.length_zipIdx] at hread
    rw [length_mapRecords]
    exact hread
  nodup := by
    rw [map_encoding_mapRecords]
    exact hreflects.nodup
  mem_encodings := by
    rw [map_encoding_mapRecords]
    exact hreflects.mem_encodings
  holds record hrecord := by
    obtain ⟨k, hk, rfl⟩ := mem_mapRecords.mp hrecord
    obtain ⟨-, hmap⟩ := shows_map_of_shows (shows_of_toList_eq h) hk
    obtain ⟨map, hslice, hlist⟩ := exists_slice?_of_shows hmap
    rw [Nat.zero_add, length_mapBytes] at hslice
    rw [toNat_offset_mapRecordOf hmaps hk]
    refine ⟨map, hslice, holdsGlyphs_of_toList hlist fun ch => ?_⟩
    rw [← glyphAt_of_mem hreflects.nodup (List.getElem_mem hk)]
    exact hreflects.glyph _ ch
  behind record hrecord := by
    obtain ⟨k, hk, rfl⟩ := mem_mapRecords.mp hrecord
    rw [toNat_offset_mapRecordOf hmaps hk, length_mapRecords]
    exact Nat.le_add_right _ _
  apart := pairwise_mapRecords hmaps

/-! ### From the steps to the file -/

/-- **The file of some steps is shared out among its tables, and the table of the maps among the
maps of the encodings in use**, as long as glyphs and encodings can be counted. -/
theorem tiling_of_steps {steps : List Step} {draft : Draft} (drawn : ofSteps steps = .ok draft)
    (glyphs : 1 + (widthsOf steps).length ≤ 65535)
    (encodings : (encodingsOf steps).toFinset.card < 65536) :
    ∃ bytes listed table maps, bytesOfSteps steps = .ok bytes
      ∧ SharesOut (.ofBytes bytes) draft listed
      ∧ Directory.table? { file := .ofBytes bytes, records := listed } .cmap = some table
      ∧ DelimitsMaps table steps maps := by
  have hreflects := reflects_of_ofSteps drawn
  have hglyphs : draft.allWidths.length < 65536 := by
    rw [hreflects.length_allWidths]
    omega
  have hmaps : draft.maps.length < 65536 := by rwa [hreflects.length_maps]
  obtain ⟨bytes, hwrite⟩ : ∃ bytes, draft.write = .ok bytes :=
    ⟨_, write_eq_ok_iff.mpr ⟨hglyphs, rfl⟩⟩
  obtain ⟨table, htable, hlist⟩ := exists_table?_of_write hwrite hmaps (.head _)
  exact ⟨⟨bytes.toArray⟩, (directoryOf draft bytes).records, table, mapRecords draft.maps,
    bytesOfSteps_eq_ok_iff.mpr ⟨draft, bytes, drawn, hwrite, rfl⟩,
    sharesOut_of_write hwrite hmaps, htable, delimitsMaps_of_toList hlist hreflects hmaps⟩

theorem tiling_of_steps_crowdedSteps :
    1 + (widthsOf (crowdedSteps 65535)).length ≤ 65535
      ∧ (encodingsOf (crowdedSteps 65535)).toFinset.card < 65536
      ∧ ∃ draft bytes listed table maps, ofSteps (crowdedSteps 65535) = .ok draft
        ∧ bytesOfSteps (crowdedSteps 65535) = .ok bytes ∧ SharesOut (.ofBytes bytes) draft listed
        ∧ Directory.table? { file := .ofBytes bytes, records := listed } .cmap = some table
        ∧ DelimitsMaps table (crowdedSteps 65535) maps := by
  have glyphs : 1 + (widthsOf (crowdedSteps 65535)).length ≤ 65535 := by
    rw [widthsOf_crowdedSteps]
    decide
  have encodings : (encodingsOf (crowdedSteps 65535)).toFinset.card < 65536 := by
    rw [card_encodingsOf_crowdedSteps (by decide)]
    decide
  obtain ⟨draft, drawn⟩ := exists_ofSteps (small_of_mem_crowdedSteps 65535)
  obtain ⟨bytes, listed, table, maps, hfile⟩ := tiling_of_steps drawn glyphs encodings
  exact ⟨glyphs, encodings, draft, bytes, listed, table, maps, drawn, hfile⟩

end Draft

end TicksAndWidths.Font
