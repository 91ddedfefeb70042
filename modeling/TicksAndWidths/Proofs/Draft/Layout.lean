import Mathlib.Tactic
import TicksAndWidths.Proofs.Draft.Steps
import TicksAndWidths.Proofs.Font.Windows

/-!
How the file of a draft is laid out.

* `shows_map_of_shows`: the maps of a draft and their records stand side by side in their table.
* `records`: the directory records of tables that follow each other, which are written as
  `tableRecords` (`tableRecords_eq_flatMap`) and read back one by one (`record?_of_shows`).
* `Points`: a record points to a table in a file.  `forall₂_points`: **each record points to its
  table**, by induction on the tables.
* `ofFile_of_write`: the directory of a written file is read back.
* `bytesOfSteps_eq_ok_iff`, `exists_write_of_small`: the file after some steps.
* `table?_of_mem`: under the name of a table that was written stand its bytes.
-/

namespace TicksAndWidths.Font

lemma TableName.tag_injective : Function.Injective TableName.tag := by
  intro name other h
  cases name <;> cases other <;> first | rfl | exact absurd h (by decide)

namespace Draft

open Window

/-! ### Sizes -/

lemma length_pad (bytes : List UInt8) : (pad bytes).length = paddedLength bytes.length := by
  rw [pad, List.length_append, length_zeros, paddedLength]
  omega

lemma length_mapBytes (map : DraftMap) : (mapBytes map).length = mapSize := by
  simp [mapBytes, mapSize]

lemma length_mapRecord (count : Nat) (map : DraftMap) (k : Nat) :
    (mapRecord count map k).length = 8 := rfl

lemma length_cmap (draft : Draft) :
    draft.cmap.length = 4 + 8 * draft.maps.length + mapSize * draft.maps.length := by
  rw [cmap, List.length_append, List.length_append,
    length_flatMap_of_forall fun x _ => length_mapRecord _ x.1 x.2,
    length_flatMap_of_forall fun map _ => length_mapBytes map, List.length_zipIdx,
    List.length_append, length_u16, length_u16]
  ring

lemma length_hmtx (draft : Draft) : draft.hmtx.length = 4 * draft.allWidths.length := by
  have hwidth : ∀ width ∈ draft.allWidths, (u16 width ++ u16 0).length = 4 := fun _ _ => rfl
  rw [hmtx, length_flatMap_of_forall hwidth, Nat.mul_comm]

/-- The tables of a draft with as many maps as can be counted fill less than a file. -/
lemma length_flatMap_tables {draft : Draft} (hmaps : draft.maps.length < 65536)
    (hglyphs : draft.allWidths.length < 65536) :
    (draft.tables.flatMap fun table => pad table.2).length < 2 ^ 31 := by
  have hhead : head.length = 54 := rfl
  have hhhea : draft.hhea.length = 36 := rfl
  have hmaxp : draft.maxp.length = 6 := rfl
  simp only [tables, List.flatMap_cons, List.flatMap_nil, List.length_append, length_pad,
    length_cmap, length_hmtx, hhead, hhhea, hmaxp, paddedLength, mapSize, List.length_nil]
  omega

/-! ### The table of the maps -/

/-- The record and the subtable of each map stand at their places. -/
lemma shows_map_of_shows {draft : Draft} {window : Window} {start : Nat}
    (h : window.Shows start draft.cmap) {k : Nat} (hk : k < draft.maps.length) :
    window.Shows (start + (4 + 8 * k)) (mapRecord draft.maps.length draft.maps[k] k)
      ∧ window.Shows (start + mapOffset draft.maps.length k) (mapBytes draft.maps[k]) := by
  have hlength : ∀ x ∈ draft.maps.zipIdx,
      (mapRecord draft.maps.length x.1 x.2).length = 8 := fun x _ => length_mapRecord _ x.1 x.2
  constructor
  · have hrecord := h.left.right.getElem_flatMap_of_forall hlength (by rwa [List.length_zipIdx])
    rw [List.getElem_zipIdx] at hrecord
    simpa [Nat.mul_comm, Nat.add_assoc] using hrecord
  · have hmap := h.right.getElem_flatMap_of_forall (fun map _ => length_mapBytes map) hk
    rw [List.length_append, length_flatMap_of_forall hlength, List.length_zipIdx] at hmap
    simpa [mapOffset, Nat.mul_comm, Nat.add_assoc] using hmap

/-- Where a map begins can be written as long as the maps can be counted. -/
lemma mapOffset_lt {count k : Nat} (hcount : count < 65536) (hk : k < count) :
    mapOffset count k < UInt32.size := by
  have hoffset : mapOffset count k < 2 ^ 31 := by
    simp only [mapOffset, mapSize]
    omega
  exact hoffset.trans (by decide)

/-! ### The directory -/

/-- The record of a table that stands at an offset. -/
def record (offset : Nat) (table : TableName × List UInt8) : TableRecord where
  tag := table.1.tag
  offset := UInt32.ofNat offset
  length := UInt32.ofNat table.2.length

/-- The numbers of a record are those of its table if they fit into it. -/
lemma toNat_record {offset : Nat} {table : TableName × List UInt8}
    (h : offset + table.2.length < UInt32.size) :
    (record offset table).offset.toNat = offset
      ∧ (record offset table).length.toNat = table.2.length :=
  ⟨UInt32.toNat_ofNat_of_lt' (by omega), UInt32.toNat_ofNat_of_lt' (by omega)⟩

/-- The records of tables that follow each other from an offset on. -/
def records (offset : Nat) : List (TableName × List UInt8) → List TableRecord
  | [] => []
  | table :: rest =>
    record offset table :: records (offset + paddedLength table.2.length) rest

/-- A record as it is written. -/
def recordBytes (record : TableRecord) : List UInt8 :=
  u32 record.tag ++ u32 0 ++ u32 record.offset ++ u32 record.length

lemma tableRecords_eq_flatMap (offset : Nat) (tables : List (TableName × List UInt8)) :
    tableRecords offset tables = (records offset tables).flatMap recordBytes := by
  induction tables generalizing offset with
  | nil => rfl
  | cons table rest ih =>
      rw [tableRecords, records, List.flatMap_cons, ih]
      rfl

lemma length_records (offset : Nat) (tables : List (TableName × List UInt8)) :
    (records offset tables).length = tables.length := by
  induction tables generalizing offset with
  | nil => rfl
  | cons table rest ih => rw [records, List.length_cons, List.length_cons, ih]

lemma length_recordBytes (record : TableRecord) : (recordBytes record).length = 16 := rfl

/-- The numbers of a written record stand in its bytes 0, 8 and 12. -/
lemma u32?_of_shows_recordBytes {file : Window} {i : Nat} {record : TableRecord}
    (h : file.Shows i (recordBytes record)) : file.u32? i = some record.tag
      ∧ file.u32? (i + 8) = some record.offset ∧ file.u32? (i + 12) = some record.length :=
  ⟨u32?_of_shows h.left.left.left, u32?_of_shows h.left.right, u32?_of_shows h.right⟩

/-- A written record is read back. -/
lemma record?_of_shows {file : Window} {i : Nat} {record : TableRecord}
    (h : file.Shows i (recordBytes record)) : Directory.record? file i = some record := by
  obtain ⟨htag, hoffset, hlength⟩ := u32?_of_shows_recordBytes h
  simp only [Directory.record?, htag, hoffset, hlength, bind, Option.bind_some, pure]

/-- Written records are read back. -/
lemma records?_of_shows_records {file : Window} {start : Nat} {records : List TableRecord}
    (h : file.Shows start (records.flatMap recordBytes)) :
    file.records? start records.length 16 (Directory.record? file) = some records := by
  have hread := records?_of_shows (fun record _ => length_recordBytes record)
    (fun _ _ _ hrecord => record?_of_shows hrecord) h
  rwa [List.map_id'] at hread

/-! ### Records and tables -/

/-- A record points to a table in a file. -/
def Points (file : Window) (record : TableRecord) (table : TableName × List UInt8) : Prop :=
  record.tag = table.1.tag ∧ ∃ window,
    file.slice? record.offset.toNat record.length.toNat = some window ∧ window.toList = table.2

/-- **Each record points to its table** where padded tables follow each other. -/
theorem forall₂_points {file : Window} (hsize : file.size < UInt32.size) {offset : Nat}
    {tables : List (TableName × List UInt8)}
    (h : file.Shows offset (tables.flatMap fun table => pad table.2)) :
    List.Forall₂ (Points file) (records offset tables) tables := by
  induction tables generalizing offset with
  | nil => exact .nil
  | cons table rest ih =>
      rw [List.flatMap_cons] at h
      have hrest := h.right
      rw [length_pad] at hrest
      have htable := h.left
      rw [pad] at htable
      have hend := htable.left.le_size
      obtain ⟨window, hslice, hlist⟩ := exists_slice?_of_shows htable.left
      obtain ⟨hoffset, hlength⟩ := toNat_record (hend.trans_lt hsize)
      exact .cons ⟨rfl, window, by rw [hoffset, hlength, hslice], hlist⟩ (ih hrest)

/-! ### The file -/

/-- What stands in a file before its directory records. -/
def preamble : List UInt8 :=
  u32 0x00010000 ++ u16 5 ++ u16 64 ++ u16 2 ++ u16 16

/-- The directory of the file of a draft. -/
def directoryOf (draft : Draft) (bytes : List UInt8) : Directory where
  file := .ofBytes ⟨bytes.toArray⟩
  records := records (directorySize 5) draft.tables

variable {draft : Draft} {bytes : List UInt8}

/-- A draft is written unless it has too many glyphs. -/
lemma write_eq_ok_iff : draft.write = .ok bytes ↔ draft.allWidths.length < 65536
    ∧ bytes = preamble ++ (records (directorySize 5) draft.tables).flatMap recordBytes
        ++ draft.tables.flatMap fun table => pad table.2 := by
  rw [write, ← tableRecords_eq_flatMap]
  split
  · next hlt => exact ⟨fun h => ⟨hlt, (Except.ok.inj h).symm⟩, fun h => congrArg _ h.2.symm⟩
  · next hlt => exact ⟨fun h => (nomatch h), fun h => absurd h.1 hlt⟩

/-- The parts of a file follow each other. -/
lemma shows_of_write (h : draft.write = .ok bytes) : (directoryOf draft bytes).file.Shows 0
    (preamble ++ (directoryOf draft bytes).records.flatMap recordBytes
      ++ draft.tables.flatMap fun table => pad table.2) :=
  shows_of_toList_eq ((toList_ofBytes _).trans (write_eq_ok_iff.mp h).2)

/-- A file counts its tables. -/
lemma u16?_four_of_write (h : draft.write = .ok bytes) :
    (directoryOf draft bytes).file.u16? 4 = some 5 :=
  u16?_of_shows (shows_of_write h).left.left.left.left.left.right

/-- The directory records of a file are read back. -/
lemma records?_of_write (h : draft.write = .ok bytes) :
    (directoryOf draft bytes).file.records? 12 5 16
      (Directory.record? (directoryOf draft bytes).file)
      = some (directoryOf draft bytes).records := by
  have hread := records?_of_shows_records (shows_of_write h).left.right
  rwa [show (directoryOf draft bytes).records.length = 5 from length_records ..] at hread

/-- The directory of a file is read back. -/
lemma ofFile_of_write (h : draft.write = .ok bytes) :
    Directory.ofFile (.ofBytes ⟨bytes.toArray⟩) = .ok (directoryOf draft bytes) := by
  have hmagic : (ofBytes ⟨bytes.toArray⟩).u32? 0 = some 0x00010000 :=
    u32?_of_shows (shows_of_write h).left.left.left.left.left.left
  have hcount : (ofBytes ⟨bytes.toArray⟩).u16? 4 = some 5 := u16?_four_of_write h
  have hrecords : (ofBytes ⟨bytes.toArray⟩).records? 12 5 16
      (Directory.record? (ofBytes ⟨bytes.toArray⟩)) = some (directoryOf draft bytes).records :=
    records?_of_write h
  have hstart : Directory.fontStart (ofBytes ⟨bytes.toArray⟩) = .ok 0 := by
    rw [Directory.fontStart, hmagic, if_neg (by decide)]
    rfl
  have hknown : ¬ (0x00010000 : UInt32) ∉ Directory.fontMagics := by decide
  simp only [Directory.ofFile, hstart, Logged.ok_bind, hmagic, if_neg hknown, Nat.zero_add, hcount,
    UInt16.reduceToNat, hrecords]
  rfl

/-- What stands before the tables of a file fills the size of its directory. -/
lemma length_front (draft : Draft) (bytes : List UInt8) :
    (preamble ++ (directoryOf draft bytes).records.flatMap recordBytes).length
      = directorySize 5 := by
  rw [List.length_append, length_flatMap_of_forall fun record _ => length_recordBytes record,
    directoryOf, length_records]
  rfl

/-- The tables of a file stand behind its directory. -/
lemma shows_tables_of_write (h : draft.write = .ok bytes) :
    (directoryOf draft bytes).file.Shows (directorySize 5)
      (draft.tables.flatMap fun table => pad table.2) := by
  have hright := (shows_of_write h).right
  rwa [Nat.zero_add, length_front] at hright

/-- A file ends with its tables. -/
lemma size_of_write (h : draft.write = .ok bytes) :
    (directoryOf draft bytes).file.size
      = directorySize 5 + (draft.tables.flatMap fun table => pad table.2).length := by
  calc bytes.length
      = (preamble ++ (directoryOf draft bytes).records.flatMap recordBytes).length
        + (draft.tables.flatMap fun table => pad table.2).length := by
        rw [← List.length_append]
        exact congrArg List.length (write_eq_ok_iff.mp h).2
    _ = _ := by rw [length_front]

/-- A file with as many maps as can be counted is one whose positions can be written. -/
lemma size_lt_of_write (h : draft.write = .ok bytes) (hmaps : draft.maps.length < 65536) :
    (directoryOf draft bytes).file.size < UInt32.size := by
  have hbody := length_flatMap_tables hmaps (write_eq_ok_iff.mp h).1
  calc (directoryOf draft bytes).file.size
      < directorySize 5 + 2 ^ 31 := by
        rw [size_of_write h]
        exact Nat.add_lt_add_left hbody _
    _ ≤ UInt32.size := by decide

/-- Each record of a file points to its table. -/
lemma forall₂_points_of_write (h : draft.write = .ok bytes) (hmaps : draft.maps.length < 65536) :
    List.Forall₂ (Points (directoryOf draft bytes).file) (directoryOf draft bytes).records
      draft.tables :=
  forall₂_points (size_lt_of_write h hmaps) (shows_tables_of_write h)

/-- The file after some steps is that of their draft. -/
lemma bytesOfSteps_eq_ok_iff {steps : List Step} {file : ByteArray} :
    bytesOfSteps steps = .ok file ↔ ∃ draft bytes, ofSteps steps = .ok draft
      ∧ draft.write = .ok bytes ∧ file = ⟨bytes.toArray⟩ := by
  rw [bytesOfSteps]
  cases ofSteps steps with
  | error fault => simp
  | ok draft =>
      cases hwrite : draft.write with
      | error fault => simp [hwrite]
      | ok bytes => simp [hwrite, eq_comm]

/-- **Steps that stay within the numbers of a draft lead to a file.** -/
lemma exists_write_of_small {steps : List Step}
    (small : ∀ encoding ch glyph, .map encoding ch glyph ∈ steps → ch.toNat < 256 ∧ glyph < 256)
    (glyphs : 1 + (widthsOf steps).length < 65536) :
    ∃ draft bytes, ofSteps steps = .ok draft ∧ draft.write = .ok bytes := by
  obtain ⟨draft, hdraft⟩ := exists_ofSteps small
  refine ⟨draft, _, hdraft, write_eq_ok_iff.mpr ⟨?_, rfl⟩⟩
  rwa [(reflects_of_ofSteps hdraft).length_allWidths]

/-! ### Finding a table -/

variable {directory : Directory} {tables : List (TableName × List UInt8)}

/-- A table is found under its name if the names differ. -/
theorem table?_of_mem
    (hpoints : List.Forall₂ (Points directory.file) directory.records tables)
    (hnodup : (tables.map Prod.fst).Nodup) {name : TableName} {table : List UInt8}
    (hmem : (name, table) ∈ tables) :
    ∃ window, directory.table? name = some window ∧ window.toList = table := by
  cases hfind : directory.records.reverse.find? (·.tag = name.tag) with
  | none =>
      obtain ⟨listed, hlisted, htag, -⟩ := exists_left_of_mem hpoints hmem
      have hne := List.find?_eq_none.mp hfind listed (List.mem_reverse.mpr hlisted)
      exact absurd htag (by simpa using hne)
  | some found =>
      have hfound := List.mem_reverse.mp (List.mem_of_find?_eq_some hfind)
      obtain ⟨other, hother, htag, window, hslice, hlist⟩ := exists_right_of_mem hpoints hfound
      have hname : other.1 = name :=
        TableName.tag_injective (htag.symm.trans (by simpa using List.find?_some hfind))
      have heq : other = (name, table) := List.inj_on_of_nodup_map hnodup hother hmem hname
      refine ⟨window, ?_, by rw [hlist, heq]⟩
      simp [Directory.table?, hfind, hslice]

/-- No table is found under a name that is not among theirs. -/
lemma table?_eq_none
    (hpoints : List.Forall₂ (Points directory.file) directory.records tables)
    {name : TableName} (hname : name ∉ tables.map Prod.fst) : directory.table? name = none := by
  have hfind : directory.records.reverse.find? (·.tag = name.tag) = none := by
    rw [List.find?_eq_none]
    intro found hfound htag
    obtain ⟨other, hother, htag', -⟩ :=
      exists_right_of_mem hpoints (List.mem_reverse.mp hfound)
    refine hname (List.mem_map.mpr ⟨other, hother, ?_⟩)
    exact TableName.tag_injective (htag'.symm.trans (by simpa using htag))
  simp [Directory.table?, hfind]

lemma map_fst_tables (draft : Draft) :
    draft.tables.map Prod.fst = [.cmap, .head, .hhea, .hmtx, .maxp] := rfl

/-- **Every table of a draft is found in its file** with the bytes that were written. -/
theorem exists_table?_of_write (h : draft.write = .ok bytes) (hmaps : draft.maps.length < 65536)
    {name : TableName} {table : List UInt8} (hmem : (name, table) ∈ draft.tables) :
    ∃ window, (directoryOf draft bytes).table? name = some window ∧ window.toList = table := by
  refine table?_of_mem (forall₂_points_of_write h hmaps) ?_ hmem
  rw [map_fst_tables]
  decide

/-- The file of a draft stores no names of glyphs. -/
lemma table?_post_of_write (h : draft.write = .ok bytes) (hmaps : draft.maps.length < 65536) :
    (directoryOf draft bytes).table? .post = none := by
  refine table?_eq_none (forall₂_points_of_write h hmaps) ?_
  rw [map_fst_tables]
  decide

end Draft

end TicksAndWidths.Font
