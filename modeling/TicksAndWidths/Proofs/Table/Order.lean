import Mathlib.Tactic
import TicksAndWidths.Proofs.Table.Rows
import TicksAndWidths.Table.Report

/-!
The sorted table, and its report as tuples.

* `eq_flatMap_filter`: a list that ascends by a key is put together from its blocks of equal keys.
* `IsStableSort`: a list is another one in ascending order, with equal indices in their order.
  `isStableSort_sort` says that sorting gives such a list, and `IsStableSort.eq` that there is no
  other.
* `sort_eq_of_perm`: the order of entries with distinct indices does not matter to their sorting.
* `index_lt_of_read`: every index that is read is below 64.
* `outcome_report`, `write_tuple`: a report is the sorted table written out, and tuples are written
  one a line.
* `readSorted_unique_stable_sort`: **the sorted table is the stable sort of the table**, block by
  block, and its tuples are written in that order.
-/

namespace TicksAndWidths.Table

open Text

/-! ### Blocks of equal keys -/

section Blocks

variable {α : Type} (key : α → ℕ)

/-- In ascending order, the items up to a key are those below it, and then those that have it. -/
lemma filter_le {l : List α} (h : l.Pairwise fun a b => key a ≤ key b) (n : ℕ) :
    l.filter (key · ≤ n) = l.filter (key · < n) ++ l.filter (key · = n) := by
  induction l with
  | nil => rfl
  | cons a l ih =>
      obtain ⟨hle, hrest⟩ := List.pairwise_cons.mp h
      by_cases ha : key a < n
      · have hne : key a ≠ n := by omega
        simp [ha, ha.le, hne, ih hrest]
      · -- no item is below the key, since the first one is not
        have hge : ∀ b ∈ a :: l, n ≤ key b := by
          intro b hb
          rcases List.mem_cons.mp hb with rfl | hb
          · omega
          · exact (not_lt.mp ha).trans (hle b hb)
        have hnil : (a :: l).filter (key · < n) = [] := by
          rw [List.filter_eq_nil_iff]
          intro b hb
          simpa using hge b hb
        rw [hnil, List.nil_append]
        refine List.filter_congr fun b hb => ?_
        rw [decide_eq_decide]
        exact ⟨fun hle => le_antisymm hle (hge b hb), le_of_eq⟩

/-- A list that ascends by a key is put together from its blocks of equal keys. -/
lemma eq_flatMap_filter {l : List α} (h : l.Pairwise fun a b => key a ≤ key b) {n : ℕ}
    (hlt : ∀ a ∈ l, key a < n) : l = (List.range n).flatMap fun k => l.filter (key · = k) := by
  have hblocks : ∀ m, l.filter (key · < m)
      = (List.range m).flatMap fun k => l.filter (key · = k) := by
    intro m
    induction m with
    | zero => simp
    | succ m ih => simp [List.range_succ, filter_le key h, ih]
  rw [← hblocks n]
  exact (List.filter_eq_self.mpr fun a ha => decide_eq_true (hlt a ha)).symm

end Blocks

/-! ### Stable sorts -/

/-- A list holds the entries of another in ascending order, those of equal index in the order in
which they stand there. -/
structure IsStableSort (sorted entries : List Entry) : Prop where
  perm : sorted.Perm entries
  ascending : sorted.Pairwise fun a b => a.index ≤ b.index
  stable : ∀ k, sorted.filter (·.index.toNat = k) = entries.filter (·.index.toNat = k)

/-- Sorting keeps the order of equal indices. -/
lemma filter_sort (entries : List Entry) (k : ℕ) :
    (Entry.sort entries).filter (·.index.toNat = k) = entries.filter (·.index.toNat = k) := by
  have hequal : (entries.filter (·.index.toNat = k)).Pairwise fun a b => a.precedes b := by
    refine List.pairwise_of_forall_mem_list fun a ha b hb => ?_
    have ha := (List.mem_filter.mp ha).2
    have hb := (List.mem_filter.mp hb).2
    simp only [decide_eq_true_eq] at ha hb
    simp only [Entry.precedes, UInt8.le_iff_toNat_le, decide_eq_true_eq]
    omega
  have hsub : (entries.filter (·.index.toNat = k)).Sublist (Entry.sort entries) :=
    List.sublist_mergeSort Entry.precedes_trans Entry.precedes_total hequal List.filter_sublist
  have hblock := hsub.filter (·.index.toNat = k)
  simp only [List.filter_filter, Bool.and_self] at hblock
  have hlen := ((Entry.sort_perm entries).filter (·.index.toNat = k)).length_eq
  exact (hblock.eq_of_length hlen.symm).symm

/-- Sorting gives a stable sort. -/
lemma isStableSort_sort (entries : List Entry) : IsStableSort (Entry.sort entries) entries where
  perm := Entry.sort_perm entries
  ascending := (Entry.pairwise_sort entries).imp fun h => by simpa [Entry.precedes] using h
  stable := filter_sort entries

/-- A stable sort is put together from the blocks of equal indices. -/
lemma IsStableSort.eq_flatMap {sorted entries : List Entry} (h : IsStableSort sorted entries)
    {n : ℕ} (hlt : ∀ entry ∈ entries, entry.index.toNat < n) :
    sorted = (List.range n).flatMap fun k => entries.filter (·.index.toNat = k) := by
  simp only [← h.stable]
  have hascending : sorted.Pairwise fun a b => a.index.toNat ≤ b.index.toNat :=
    h.ascending.imp fun hle => UInt8.le_iff_toNat_le.mp hle
  exact eq_flatMap_filter (fun entry : Entry => entry.index.toNat) hascending fun entry hentry =>
    hlt entry (h.perm.mem_iff.mp hentry)

/-- There is no other stable sort. -/
lemma IsStableSort.eq {sorted other entries : List Entry} (h : IsStableSort sorted entries)
    (hother : IsStableSort other entries) : sorted = other := by
  have hlt : ∀ entry ∈ entries, entry.index.toNat < 256 := fun entry _ => entry.index.toNat_lt
  rw [h.eq_flatMap hlt, hother.eq_flatMap hlt]

/-- Entries with distinct indices are sorted to the same list in any order. -/
lemma sort_eq_of_perm {entries entries' : List Entry} (h : entries.Perm entries')
    (hnodup : (entries.map (·.index)).Nodup) : Entry.sort entries = Entry.sort entries' := by
  have hperm : (Entry.sort entries).Perm (Entry.sort entries') :=
    (Entry.sort_perm entries).trans (h.trans (Entry.sort_perm entries').symm)
  refine hperm.eq_of_pairwise ?_ (isStableSort_sort entries).ascending
    (isStableSort_sort entries').ascending
  intro a b ha hb hab hba
  have ha := (Entry.sort_perm entries).mem_iff.mp ha
  have hb := h.mem_iff.mpr ((Entry.sort_perm entries').mem_iff.mp hb)
  exact List.inj_on_of_nodup_map hnodup ha hb (UInt8.le_antisymm hab hba)

/-! ### The entries of a text -/

/-- Every index that is read is below 64. -/
lemma index_lt_of_read {text : String} {entries : List Entry}
    (h : (read text).outcome = .ok entries) : ∀ entry ∈ entries, entry.index.toNat < 64 := by
  have hbounded : List.Forall₂ (fun entry row => entry.index.toNat < 64 ∧ True) entries
      (rowsWithAbove (lines text)) := by
    refine (forall₂_of_read h).flip.imp ?_
    rintro entry row ⟨plain, hplain, rfl⟩
    exact ⟨(of_readRow_eq_ok hplain).2.2, trivial⟩
  exact ((List.forall₂_and_left _ _).mp hbounded).1

lemma outcome_readSorted (text : String) :
    (readSorted text).outcome = (read text).outcome.map Entry.sort := by
  rw [readSorted, Logged.outcome_bind]
  cases (read text).outcome <;> rfl

lemma readSorted_eq_ok_iff {text : String} {sorted : List Entry} :
    (readSorted text).outcome = .ok sorted
      ↔ ∃ entries, (read text).outcome = .ok entries ∧ Entry.sort entries = sorted := by
  rw [outcome_readSorted]
  cases (read text).outcome <;> simp [Except.map]

/-- A sorted table ascends by index. -/
lemma ascending_of_readSorted {text : String} {sorted : List Entry}
    (h : (readSorted text).outcome = .ok sorted) :
    sorted.Pairwise fun a b => a.index ≤ b.index := by
  obtain ⟨entries, -, rfl⟩ := readSorted_eq_ok_iff.mp h
  exact (isStableSort_sort entries).ascending

/-! ### Reports -/

/-- A disk on which every file holds the same text. -/
def holding (text : String) : Files.Disk :=
  fun _ => .ok text.toUTF8

lemma outcome_text_holding (text path : String) :
    (Source.text (holding text) (.file path)).outcome = .ok text := by
  have hutf8 : String.fromUTF8? text.toUTF8 = some text :=
    dif_pos text.isValidUTF8
  have hread : (holding text).readText path = .ok text := by
    rw [Files.Disk.readText, holding, Logged.ok_bind, hutf8]
    rfl
  simp [Source.text, hread, Except.mapError]

/-- The report on a text is its sorted table written out. -/
lemma outcome_report {disk : Files.Disk} {source : Source} {text : String}
    (h : (source.text disk).outcome = .ok text) (layout : Layout) :
    (report disk { source, layout }).outcome
      = (readSorted text).outcome >>= fun entries => write entries layout := by
  simp only [report, reportText, Logged.outcome_bind, h, Logged.ok_bind, Logged.outcome_write,
    Logged.outcome_ofExcept]

/-- Joining lines and ending the last one ends every line. -/
lemma intercalate_append_newline (first : List Char) (rest : List (List Char)) :
    ['\n'].intercalate (first :: rest) ++ ['\n'] = (first :: rest).flatMap (· ++ ['\n']) := by
  induction rest generalizing first with
  | nil => simp
  | cons second rest ih =>
      rw [List.intercalate_cons_cons, List.append_assoc, ih]
      simp

lemma endLine_of_ne_nil {text : List Char} (h : text ≠ []) : endLine text = text ++ ['\n'] := by
  cases text with
  | nil => exact absurd rfl h
  | cons c text => rfl

/-- Tuples are written one a line. -/
lemma write_tuple (entries : List Entry) :
    write entries .tuple
      = .ok (String.ofList (entries.flatMap fun entry => entry.tuple ++ ['\n'])) := by
  cases entries with
  | nil => rfl
  | cons entry rest =>
      have hlines := intercalate_append_newline entry.tuple (rest.map Entry.tuple)
      have hne : ['\n'].intercalate (entry.tuple :: rest.map Entry.tuple) ≠ [] := by
        intro hnil
        rw [hnil] at hlines
        simp [Entry.tuple] at hlines
      rw [write, layOut, Logged.ok_bind, List.map_cons, endLine_of_ne_nil hne, hlines,
        ← List.map_cons, List.flatMap_map]
      rfl

/-- **The sorted table is the stable sort of the table**: no other list holds its entries in
ascending order with those of equal index in the order of their rows.  It is put together from the
entries of each index below 64, and its tuples are written in its order. -/
theorem readSorted_unique_stable_sort (text : String) :
    (∀ e, (readSorted text).outcome = .error e ↔ (read text).outcome = .error e)
      ∧ ∀ entries, (read text).outcome = .ok entries →
          ∃ sorted, (readSorted text).outcome = .ok sorted
            ∧ (∀ other, IsStableSort other entries ↔ other = sorted)
            ∧ (∀ entry ∈ entries, entry.index.toNat < 64)
            ∧ sorted = (List.range 64).flatMap (fun k => entries.filter (·.index.toNat = k))
            ∧ ∀ disk source, (source.text disk).outcome = .ok text →
                (report disk { source, layout := .tuple }).outcome
                  = .ok (String.ofList (sorted.flatMap fun entry => entry.tuple ++ ['\n'])) := by
  constructor
  · intro e
    rw [outcome_readSorted]
    cases (read text).outcome <;> simp [Except.map]
  · intro entries hentries
    have hsort := isStableSort_sort entries
    have hlt := index_lt_of_read hentries
    have hsorted := readSorted_eq_ok_iff.mpr ⟨entries, hentries, rfl⟩
    refine ⟨Entry.sort entries, hsorted, fun other => ⟨fun h => h.eq hsort, ?_⟩, hlt,
      hsort.eq_flatMap hlt, ?_⟩
    · rintro rfl
      exact hsort
    · intro disk source htext
      rw [outcome_report htext, hsorted, Logged.ok_bind, write_tuple]

/-- Rows out of order, two of them with the same index. -/
def repeatedText : String :=
  "0 0011 b\n0 0001 c\nLow\n0 0011 a"

theorem readSorted_unique_stable_sort_repeatedText :
    ∃ sorted, (readSorted repeatedText).outcome = .ok sorted
      ∧ sorted = [{ index := 1, line := "0 0001 c" }, { index := 3, line := "0 0011 b" },
                  { index := 3, line := "0 0011 a", heading := some "Low" }]
      ∧ (∀ other, IsStableSort other [{ index := 3, line := "0 0011 b" },
            { index := 1, line := "0 0001 c" },
            { index := 3, line := "0 0011 a", heading := some "Low" }] ↔ other = sorted)
      ∧ (report (holding repeatedText) { source := .file "table.txt", layout := .tuple }).outcome
          = .ok "(1, '0 0001 c')\n(3, '0 0011 b')\n(3, '0 0011 a')\n" := by
  have entries : (read repeatedText).outcome
      = .ok [{ index := 3, line := "0 0011 b" }, { index := 1, line := "0 0001 c" },
             { index := 3, line := "0 0011 a", heading := some "Low" }] := by decide +kernel
  obtain ⟨sorted, hsorted, hunique, -, hblocks, hreport⟩ :=
    (readSorted_unique_stable_sort repeatedText).2 _ entries
  have blocks : sorted = [{ index := 1, line := "0 0001 c" }, { index := 3, line := "0 0011 b" },
      { index := 3, line := "0 0011 a", heading := some "Low" }] := by
    rw [hblocks]
    decide +kernel
  refine ⟨sorted, hsorted, blocks, hunique, ?_⟩
  rw [hreport _ _ (outcome_text_holding _ _), blocks]
  decide +kernel

end TicksAndWidths.Table
