import Mathlib.Tactic
import TicksAndWidths.Proofs.Draft.Layout

/-!
The numbers in the file of a draft, against what they count and locate.

* `recordStart`, `tableStart`, `mapRecordStart`: where things stand in a file, whatever its numbers
  say.  `LaidOut`: a file has the tables and the maps of a draft, with their names, at these places
  (`laidOut_of_write`).
* `CountsGlyphs`, `CountsMaps`, `LocatesTables`, `LocatesMaps`: what the numbers of a file should
  say.
* `countsGlyphs_of_write`, `countsMaps_of_write`, `locatesTables_of_write`, `locatesMaps_of_write`:
  what they do say.
* `numbers_of_bytesOfSteps`: **the glyphs are always counted, and all numbers are right exactly if
  fewer than 65536 encodings were used**, since the count of the maps is cut to two bytes.
  `crowdedSteps` can use one encoding too many, and then no map at all is counted.
-/

namespace TicksAndWidths.Font.Draft

open Window

variable {file : Window} {draft : Draft} {bytes : List UInt8}

/-! ### Places -/

/-- Where the directory record of the `i`-th table stands. -/
def recordStart (i : Nat) : Nat :=
  12 + 16 * i

/-- Where the `i`-th of some tables begins, each padded and all behind their directory. -/
def tableStart (tables : List (TableName × List UInt8)) (i : Nat) : Nat :=
  directorySize tables.length + ((tables.take i).map fun table => paddedLength table.2.length).sum

/-- Where the record of the `k`-th map stands in the table of the maps. -/
def mapRecordStart (k : Nat) : Nat :=
  4 + 8 * k

/-- A file has the tables and the maps of a draft at their places, and their names in the
records. -/
structure LaidOut (file : Window) (draft : Draft) : Prop where
  table : ∀ i (hi : i < draft.tables.length),
    file.u32? (recordStart i) = some draft.tables[i].1.tag
      ∧ file.Shows (tableStart draft.tables i) draft.tables[i].2
  map : ∀ k (hk : k < draft.maps.length),
    file.u16? (tableStart draft.tables 0 + mapRecordStart k)
        = some draft.maps[k].encoding.platform
      ∧ file.u16? (tableStart draft.tables 0 + mapRecordStart k + 2)
        = some draft.maps[k].encoding.encoding
      ∧ file.Shows (tableStart draft.tables 0 + mapOffset draft.maps.length k)
        (mapBytes draft.maps[k])

/-! ### What the numbers should say -/

/-- The horizontal header, which is the third table, and the maximum profile, which is the fifth,
say how many glyphs there are. -/
def CountsGlyphs (file : Window) (draft : Draft) (count : Nat) : Prop :=
  (file.u16? (tableStart draft.tables 2 + 34)).map UInt16.toNat = some count
    ∧ (file.u16? (tableStart draft.tables 4 + 4)).map UInt16.toNat = some count

/-- The table of the maps says how many there are. -/
def CountsMaps (file : Window) (draft : Draft) (count : Nat) : Prop :=
  (file.u16? (tableStart draft.tables 0 + 2)).map UInt16.toNat = some count

/-- The directory of a file says where the tables stand and how long they are. -/
def LocatesTables (file : Window) (draft : Draft) : Prop :=
  ∀ i (hi : i < draft.tables.length),
    (file.u32? (recordStart i + 8)).map UInt32.toNat = some (tableStart draft.tables i)
      ∧ (file.u32? (recordStart i + 12)).map UInt32.toNat = some draft.tables[i].2.length

/-- The table of the maps says where in it they stand. -/
def LocatesMaps (file : Window) (draft : Draft) : Prop :=
  ∀ k < draft.maps.length,
    (file.u32? (tableStart draft.tables 0 + mapRecordStart k + 4)).map UInt32.toNat
      = some (mapOffset draft.maps.length k)

/-! ### What the numbers say -/

/-- A number written in two bytes is read back modulo `2 ^ 16`. -/
lemma map_toNat_u16?_of_shows {i n : Nat} (h : file.Shows i (u16 (UInt16.ofNat n))) :
    (file.u16? i).map UInt16.toNat = some (n % 65536) := by
  rw [u16?_of_shows h, Option.map_some, UInt16.toNat_ofNat']

/-- A number below `2 ^ 32` is read back from its four bytes. -/
lemma map_toNat_u32?_of_lt {i n : Nat} (h : file.u32? i = some (UInt32.ofNat n))
    (hlt : n < UInt32.size) : (file.u32? i).map UInt32.toNat = some n := by
  rw [h, Option.map_some, UInt32.toNat_ofNat_of_lt' hlt]

lemma getElem?_records (offset : Nat) (tables : List (TableName × List UInt8)) (i : Nat) :
    (records offset tables)[i]? = tables[i]?.map
      (record (offset + ((tables.take i).map fun table => paddedLength table.2.length).sum)) := by
  induction tables generalizing offset i with
  | nil => rfl
  | cons table rest ih =>
      cases i with
      | zero => rfl
      | succ i =>
          rw [records, List.getElem?_cons_succ, List.getElem?_cons_succ, ih, List.take_succ_cons,
            List.map_cons, List.sum_cons, Nat.add_assoc]

/-! ### The file of a draft -/

/-- A table of a file stands at its place. -/
lemma shows_table_of_write (h : draft.write = .ok bytes) {i : Nat} (hi : i < draft.tables.length) :
    (directoryOf draft bytes).file.Shows (tableStart draft.tables i) draft.tables[i].2 := by
  have htable := (shows_tables_of_write h).getElem_flatMap hi
  simp only [length_pad] at htable
  rw [pad] at htable
  exact htable.left

/-- The record of a table stands at its place, with what fits into it. -/
lemma shows_record_of_write (h : draft.write = .ok bytes) {i : Nat}
    (hi : i < draft.tables.length) : (directoryOf draft bytes).file.Shows (recordStart i)
      (recordBytes (record (tableStart draft.tables i) draft.tables[i])) := by
  have hread : (directoryOf draft bytes).records[i]?
      = some (record (tableStart draft.tables i) draft.tables[i]) := by
    rw [directoryOf, getElem?_records, List.getElem?_eq_getElem hi]
    rfl
  obtain ⟨hlt, hrecord⟩ := List.getElem?_eq_some_iff.mp hread
  have hshows := (shows_of_write h).left.right.getElem_flatMap_of_forall
    (fun record _ => length_recordBytes record) hlt
  rw [hrecord, Nat.mul_comm] at hshows
  exact hshows

/-- The table of the maps is the first. -/
lemma shows_cmap_of_write (h : draft.write = .ok bytes) :
    (directoryOf draft bytes).file.Shows (tableStart draft.tables 0) draft.cmap :=
  shows_table_of_write h (show 0 < 5 by decide)

/-- The tables, the maps and their names stand at their places. -/
theorem laidOut_of_write (h : draft.write = .ok bytes) :
    LaidOut (directoryOf draft bytes).file draft where
  table i hi :=
    ⟨(u32?_of_shows_recordBytes (shows_record_of_write h hi)).1, shows_table_of_write h hi⟩
  map k hk := by
    obtain ⟨hrecord, hmap⟩ := shows_map_of_shows (shows_cmap_of_write h) hk
    exact ⟨u16?_of_shows hrecord.left.left, u16?_of_shows hrecord.left.right, hmap⟩

/-- The glyphs of a file are counted, since a draft with too many of them is not written. -/
theorem countsGlyphs_of_write (h : draft.write = .ok bytes) :
    CountsGlyphs (directoryOf draft bytes).file draft draft.allWidths.length := by
  have hhhea : (directoryOf draft bytes).file.Shows (tableStart draft.tables 2) draft.hhea :=
    shows_table_of_write h (show 2 < 5 by decide)
  have hmaxp : (directoryOf draft bytes).file.Shows (tableStart draft.tables 4) draft.maxp :=
    shows_table_of_write h (show 4 < 5 by decide)
  have hcount := Nat.mod_eq_of_lt (write_eq_ok_iff.mp h).1
  rw [← hcount]
  exact ⟨map_toNat_u16?_of_shows hhhea.right, map_toNat_u16?_of_shows hmaxp.right⟩

/-- The maps of a file are counted modulo `2 ^ 16`. -/
theorem countsMaps_of_write (h : draft.write = .ok bytes) :
    CountsMaps (directoryOf draft bytes).file draft (draft.maps.length % 65536) :=
  map_toNat_u16?_of_shows (shows_cmap_of_write h).left.left.right

/-- The tables are located in a file whose positions can be written. -/
theorem locatesTables_of_write (h : draft.write = .ok bytes)
    (hsize : (directoryOf draft bytes).file.size < UInt32.size) :
    LocatesTables (directoryOf draft bytes).file draft := by
  intro i hi
  obtain ⟨-, hoffset, hlength⟩ := u32?_of_shows_recordBytes (shows_record_of_write h hi)
  have hend := (shows_table_of_write h hi).le_size
  exact ⟨map_toNat_u32?_of_lt hoffset (by omega), map_toNat_u32?_of_lt hlength (by omega)⟩

/-- The maps are located in a file whose positions can be written. -/
theorem locatesMaps_of_write (h : draft.write = .ok bytes)
    (hsize : (directoryOf draft bytes).file.size < UInt32.size) :
    LocatesMaps (directoryOf draft bytes).file draft := by
  intro k hk
  obtain ⟨hrecord, hmap⟩ := shows_map_of_shows (shows_cmap_of_write h) hk
  have hend := hmap.le_size
  exact map_toNat_u32?_of_lt (u32?_of_shows hrecord.right) (by omega)

/-- Only one count of the maps is written. -/
lemma countsMaps_iff_eq {count other : Nat} (h : CountsMaps file draft count) :
    CountsMaps file draft other ↔ other = count := by
  rw [CountsMaps, h, Option.some.injEq, eq_comm]

/-! ### From the steps to the numbers -/

/-- **All numbers in the file of some steps are right exactly if the steps use fewer than 65536
encodings.**  The glyphs are always counted, the maps modulo `2 ^ 16`, and tables and maps are
located in every file of less than `2 ^ 32` bytes. -/
theorem numbers_of_bytesOfSteps {steps : List Step} {bytes : ByteArray}
    (written : bytesOfSteps steps = .ok bytes) :
    ∃ draft, ofSteps steps = .ok draft ∧ LaidOut (.ofBytes bytes) draft
      ∧ CountsGlyphs (.ofBytes bytes) draft (1 + (widthsOf steps).length)
      ∧ CountsMaps (.ofBytes bytes) draft ((encodingsOf steps).toFinset.card % 65536)
      ∧ (bytes.size < 2 ^ 32 →
        LocatesTables (.ofBytes bytes) draft ∧ LocatesMaps (.ofBytes bytes) draft)
      ∧ (CountsMaps (.ofBytes bytes) draft (encodingsOf steps).toFinset.card
          ∧ LocatesTables (.ofBytes bytes) draft ∧ LocatesMaps (.ofBytes bytes) draft
        ↔ (encodingsOf steps).toFinset.card < 65536) := by
  obtain ⟨draft, list, hdraft, hwrite, rfl⟩ := bytesOfSteps_eq_ok_iff.mp written
  have hreflects := reflects_of_ofSteps hdraft
  have hcount := countsMaps_of_write hwrite
  have hlocates : (ByteArray.mk list.toArray).size < 2 ^ 32 →
      LocatesTables (.ofBytes ⟨list.toArray⟩) draft ∧ LocatesMaps (.ofBytes ⟨list.toArray⟩) draft :=
    fun hsize => ⟨locatesTables_of_write hwrite hsize, locatesMaps_of_write hwrite hsize⟩
  rw [← hreflects.length_allWidths, ← hreflects.length_maps]
  refine ⟨draft, hdraft, laidOut_of_write hwrite, countsGlyphs_of_write hwrite, hcount, hlocates,
    ?_, fun hmaps => ⟨?_, hlocates (size_lt_of_write hwrite hmaps)⟩⟩
  · -- a right count is one that two bytes can hold
    rintro ⟨hcounts, -⟩
    rw [(countsMaps_iff_eq hcount).mp hcounts]
    exact Nat.mod_lt _ (by decide)
  · rwa [Nat.mod_eq_of_lt hmaps] at hcount

theorem numbers_of_bytesOfSteps_sampleSteps :
    ∃ bytes, bytesOfSteps sampleSteps = .ok bytes
      ∧ ∃ draft, ofSteps sampleSteps = .ok draft ∧ LaidOut (.ofBytes bytes) draft
        ∧ CountsGlyphs (.ofBytes bytes) draft 2 ∧ CountsMaps (.ofBytes bytes) draft 1
        ∧ LocatesTables (.ofBytes bytes) draft ∧ LocatesMaps (.ofBytes bytes) draft := by
  obtain ⟨bytes, written⟩ : ∃ bytes, bytesOfSteps sampleSteps = .ok bytes := ⟨_, rfl⟩
  obtain ⟨draft, hdraft, hlaid, hglyphs, -, -, hright⟩ := numbers_of_bytesOfSteps written
  exact ⟨bytes, written, draft, hdraft, hlaid, hglyphs, hright.mpr (by decide)⟩

/-! ### One encoding too many -/

/-- Steps that map `A` to the glyph they append, in so many encodings of one platform. -/
def crowdedSteps (count : Nat) : List Step :=
  .glyph 600 :: (List.range count).map fun k => .map ⟨3, UInt16.ofNat k⟩ 'A' 1

lemma widthsOf_crowdedSteps (count : Nat) : widthsOf (crowdedSteps count) = [600] := by
  simp [crowdedSteps, widthsOf, Step.width?]

lemma encodingsOf_crowdedSteps (count : Nat) : encodingsOf (crowdedSteps count)
    = (List.range count).map fun k => ⟨3, UInt16.ofNat k⟩ := by
  rw [crowdedSteps, encodingsOf, List.filterMap_cons_none rfl, List.filterMap_map]
  exact congrFun List.filterMap_eq_map _

lemma small_of_mem_crowdedSteps (count : Nat) (encoding : Encoding) (ch : Char) (glyph : UInt16)
    (h : .map encoding ch glyph ∈ crowdedSteps count) : ch.toNat < 256 ∧ glyph < 256 := by
  simp only [crowdedSteps, List.mem_cons, reduceCtorEq, List.mem_map, Step.map.injEq,
    false_or] at h
  obtain ⟨k, -, -, rfl, rfl⟩ := h
  decide

/-- Numbers of two bytes are different encodings. -/
lemma card_encodingsOf_crowdedSteps {count : Nat} (h : count ≤ 65536) :
    (encodingsOf (crowdedSteps count)).toFinset.card = count := by
  rw [encodingsOf_crowdedSteps, List.toFinset_card_of_nodup, List.length_map, List.length_range]
  refine List.nodup_range.map_on fun k hk l hl heq => ?_
  rw [List.mem_range] at hk hl
  have hnumber := congrArg UInt16.toNat (Encoding.mk.inj heq).2
  rwa [UInt16.toNat_ofNat_of_lt' (hk.trans_le h), UInt16.toNat_ofNat_of_lt' (hl.trans_le h)]
    at hnumber

theorem maps_uncounted_of_crowdedSteps :
    (encodingsOf (crowdedSteps 65536)).toFinset.card = 65536
      ∧ ∃ bytes draft, bytesOfSteps (crowdedSteps 65536) = .ok bytes
        ∧ ofSteps (crowdedSteps 65536) = .ok draft ∧ LaidOut (.ofBytes bytes) draft
        ∧ CountsMaps (.ofBytes bytes) draft 0 ∧ ¬ CountsMaps (.ofBytes bytes) draft 65536 := by
  have hcard := card_encodingsOf_crowdedSteps (Nat.le_refl 65536)
  obtain ⟨draft, list, hdraft, hwrite⟩ :=
    exists_write_of_small (small_of_mem_crowdedSteps 65536) (by simp [widthsOf_crowdedSteps])
  have hcount := countsMaps_of_write hwrite
  rw [(reflects_of_ofSteps hdraft).length_maps, hcard, Nat.mod_self] at hcount
  exact ⟨hcard, _, draft, bytesOfSteps_eq_ok_iff.mpr ⟨draft, list, hdraft, hwrite, rfl⟩, hdraft,
    laidOut_of_write hwrite, hcount, fun h => by simpa using (countsMaps_iff_eq hcount).mp h⟩

end TicksAndWidths.Font.Draft
