import Mathlib.Tactic
import TicksAndWidths.Proofs.Json.Numbers
import TicksAndWidths.Proofs.Table.Order
import TicksAndWidths.Proofs.Table.Slots

/-!
The report of a text as a length table.

* `ListsTicks`: some entries have the indices of the length table in their order, and state its
  ticks.
* `ofEntries_eq_ok_iff_listsTicks`: **entries in ascending order make a length table** exactly when
  they list its ticks, since no index may be missing or come twice.
* `read_print`, `print_injective`: the line of a length table is read back as its ticks.
* `lookup_report_of_complete_table`: **the length table of a text is reported** exactly when the
  sorted text lists ticks, and the ticks are read back from the report.
-/

namespace TicksAndWidths.Table

open Text LengthTable

/-! ### Complete tables -/

/-- Some entries are one for each index of the length table, in the order of the indices, and state
these ticks. -/
structure ListsTicks (entries : List Entry) (ticks : Vector UInt16 32) : Prop where
  length_eq : entries.length = 32
  entry : ∀ i : Fin 32, ∃ entry, entries[i.val]? = some entry ∧ entry.index.toNat = i.val
    ∧ entry.ticks = some ticks[i]

/-- The sorted table of a text is complete and lists these ticks. -/
def StatesTicks (text : String) (ticks : Vector UInt16 32) : Prop :=
  ∃ entries, (readSorted text).outcome = .ok entries ∧ ListsTicks entries ticks

/-- The indices of a complete table are the numbers below 32. -/
lemma ListsTicks.map_index {entries : List Entry} {ticks : Vector UInt16 32}
    (h : ListsTicks entries ticks) : entries.map (·.index.toNat) = List.range 32 := by
  refine List.ext_getElem? fun i => ?_
  rw [List.getElem?_map]
  by_cases hi : i < 32
  · obtain ⟨entry, hentry, hindex, -⟩ := h.entry ⟨i, hi⟩
    rw [hentry, List.getElem?_range hi, Option.map_some, hindex]
  · have hlen := h.length_eq
    rw [List.getElem?_eq_none (by omega), List.getElem?_eq_none (by simpa using hi),
      Option.map_none]

/-- Nothing is wrong with the entries of a complete table. -/
lemma ListsTicks.faultless {entries : List Entry} {ticks : Vector UInt16 32}
    (h : ListsTicks entries ticks) : Faultless entries := by
  have hget : ∀ entry ∈ entries, entry.index.toNat < 32 ∧ entry.ticks ≠ none := by
    intro entry hentry
    obtain ⟨i, hi, rfl⟩ := List.mem_iff_getElem.mp hentry
    obtain ⟨entry', hentry', hindex, hticks⟩ := h.entry ⟨i, hi.trans_eq h.length_eq⟩
    cases (List.getElem?_eq_getElem hi).symm.trans hentry'
    exact ⟨hindex.trans_lt (hi.trans_eq h.length_eq), by rw [hticks]; simp⟩
  refine ⟨fun entry hentry => (hget entry hentry).1, fun entry hentry => (hget entry hentry).2, ?_⟩
  rw [nodup_map_index_iff, h.map_index]
  exact List.nodup_range

/-- Faultless entries in ascending order that state ticks for every slot have the numbers below 32
as their indices. -/
lemma LengthTable.Faultless.map_index {entries : List Entry} (h : Faultless entries)
    (hascending : entries.Pairwise fun a b => a.index ≤ b.index)
    (hfull : ∀ i < lengthTableSize, ticksOf entries i ≠ none) :
    entries.map (·.index.toNat) = List.range 32 := by
  have hsorted : (entries.map (·.index.toNat)).Pairwise (· ≤ ·) :=
    List.pairwise_map.mpr (hascending.imp fun hle => UInt8.le_iff_toNat_le.mp hle)
  exact (h.perm_range hfull).eq_of_pairwise (fun _ _ _ _ => Nat.le_antisymm) hsorted
    (List.pairwise_lt_range.imp Nat.le_of_lt)

/-- **Entries in ascending order make a length table** exactly when they list its ticks. -/
theorem ofEntries_eq_ok_iff_listsTicks {entries : List Entry}
    (hascending : entries.Pairwise fun a b => a.index ≤ b.index) {table : LengthTable} :
    ofEntries entries = .ok table ↔ ListsTicks entries table.ticks := by
  rw [ofEntries_eq_ok_iff]
  constructor
  · rintro ⟨hfaultless, hticks⟩
    have hrange := hfaultless.map_index hascending fun i hi => by simp [hticks i hi]
    have hlen : entries.length = 32 := by
      rw [← List.length_map (f := (·.index.toNat)), hrange, List.length_range]
    refine ⟨hlen, fun i => ?_⟩
    have hi : i.val < entries.length := by omega
    have hindex : entries[i.val].index.toNat = i.val := by
      have hget := congrArg (·[i.val]?) hrange
      simpa [hi] using hget
    refine ⟨entries[i.val], List.getElem?_eq_getElem hi, hindex, ?_⟩
    rw [← hfaultless.ticksOf_eq (List.getElem_mem hi), hindex]
    exact hticks i i.isLt
  · intro h
    refine ⟨h.faultless, fun i hi => ?_⟩
    obtain ⟨entry, hentry, hindex, hticks⟩ := h.entry ⟨i, hi⟩
    have hfound := h.faultless.ticksOf_eq (List.mem_of_getElem? hentry)
    rw [hindex, hticks] at hfound
    exact hfound

/-! ### The line of a length table -/

lemma print_eq (table : LengthTable) :
    table.print = '[' :: (Json.numbersText (table.ticks.toList.map UInt16.toNat) ++ [']']) := by
  rw [print, Json.numbersText, List.map_map]
  rfl

/-- A length table is written on one line. -/
lemma newline_notMem_print (table : LengthTable) : '\n' ∉ table.print := by
  rw [print_eq, List.mem_cons, List.mem_append, List.mem_singleton]
  rintro (hopen | htext | hclose)
  · exact absurd hopen (by decide)
  · rcases Json.of_mem_numbersText htext with hdigit | hcomma | hspace
    · exact absurd hdigit (by decide)
    · exact absurd hcomma (by decide)
    · exact absurd hspace (by decide)
  · exact absurd hclose (by decide)

/-- Entries are written as the line of their length table. -/
lemma write_lookup (entries : List Entry) :
    write entries .lookup
      = (ofEntries entries).map fun table => String.ofList (table.print ++ ['\n']) := by
  rw [write, layOut]
  cases ofEntries entries with
  | error e => rfl
  | ok table => rfl

/-- A length table is reported exactly when the sorted table of the text lists its ticks. -/
lemma report_lookup_eq_ok_iff {disk : Files.Disk} {source : Source} {text : String}
    (htext : (source.text disk).outcome = .ok text) {out : String} :
    (report disk { source, layout := .lookup }).outcome = .ok out
      ↔ ∃ table : LengthTable, StatesTicks text table.ticks
        ∧ out = String.ofList (table.print ++ ['\n']) := by
  rw [outcome_report htext]
  cases hsorted : (readSorted text).outcome with
  | error e => simp [StatesTicks, hsorted]
  | ok entries =>
      have hascending := ascending_of_readSorted hsorted
      rw [Logged.ok_bind, write_lookup]
      constructor
      · intro h
        cases htable : ofEntries entries with
        | error e =>
            rw [htable] at h
            cases h
        | ok table =>
            rw [htable] at h
            cases h
            exact ⟨table, ⟨entries, hsorted,
              (ofEntries_eq_ok_iff_listsTicks hascending).mp htable⟩, rfl⟩
      · rintro ⟨table, ⟨entries', hentries, hlists⟩, rfl⟩
        cases hsorted.symm.trans hentries
        rw [(ofEntries_eq_ok_iff_listsTicks hascending).mpr hlists]
        rfl

/-- The report on a complete table is the line of its ticks. -/
lemma StatesTicks.report_lookup {disk : Files.Disk} {source : Source} {text : String}
    {ticks : Vector UInt16 32} (h : StatesTicks text ticks)
    (htext : (source.text disk).outcome = .ok text) :
    (report disk { source, layout := .lookup }).outcome
      = .ok (String.ofList (print ⟨ticks⟩ ++ ['\n'])) :=
  (report_lookup_eq_ok_iff htext).mpr ⟨⟨ticks⟩, h, rfl⟩

/-- The line of a length table is read back as its ticks. -/
lemma read_print (table : LengthTable) :
    Json.Value.read table.print
      = some (.array (table.ticks.toList.map fun t => .number t.toNat)) := by
  rw [print_eq, Json.read_numbers, List.map_map]
  rfl

/-- Length tables with the same line are the same. -/
lemma print_injective : Function.Injective print := by
  intro table table' h
  have hread := congrArg Json.Value.read h
  rw [read_print, read_print] at hread
  simp only [Option.some.injEq, Json.Value.array.injEq] at hread
  have hlists : table.ticks.toList = table'.ticks.toList :=
    List.map_injective_iff.mpr
      (fun _ _ heq => UInt16.toNat_inj.mp (Json.Value.number.inj heq)) hread
  cases table
  cases table'
  exact congrArg _ (Vector.toList_inj.mp hlists)

/-- **The length table of a text is reported exactly when the text is complete**: sorted, it has one
entry for each index below 32, and each of them states ticks.  The report is one line, on which the
ticks stand in decimal digits between brackets; they are read back from it, so a text that states
other ticks has another report. -/
theorem lookup_report_of_complete_table {disk : Files.Disk} {source : Source} {text : String}
    (htext : (source.text disk).outcome = .ok text) :
    ((∃ out, (report disk { source, layout := .lookup }).outcome = .ok out)
        ↔ ∃ ticks, StatesTicks text ticks)
      ∧ (∀ out ticks, (report disk { source, layout := .lookup }).outcome = .ok out →
          StatesTicks text ticks →
          ∃ line, out = String.ofList (line ++ ['\n']) ∧ '\n' ∉ line
            ∧ line = '[' :: ([',', ' '].intercalate (ticks.toList.map fun t => decimal t.toNat)
                ++ [']'])
            ∧ Json.Value.read line = some (.array (ticks.toList.map fun t => .number t.toNat)))
      ∧ ∀ disk' source' text' out ticks ticks', (source'.text disk').outcome = .ok text' →
          StatesTicks text ticks → StatesTicks text' ticks' →
          (report disk { source, layout := .lookup }).outcome = .ok out →
          (report disk' { source := source', layout := .lookup }).outcome = .ok out →
          ticks = ticks' := by
  refine ⟨⟨?_, ?_⟩, ?_, ?_⟩
  · rintro ⟨out, hout⟩
    obtain ⟨table, hstates, -⟩ := (report_lookup_eq_ok_iff htext).mp hout
    exact ⟨table.ticks, hstates⟩
  · rintro ⟨ticks, hstates⟩
    exact ⟨_, hstates.report_lookup htext⟩
  · intro out ticks hout hstates
    cases hout.symm.trans (hstates.report_lookup htext)
    exact ⟨print ⟨ticks⟩, rfl, newline_notMem_print _, rfl, read_print _⟩
  · intro disk' source' text' out ticks ticks' htext' hstates hstates' hout hout'
    rw [hstates.report_lookup htext, ← hout', hstates'.report_lookup htext', Except.ok.injEq,
      String.ofList_inj, List.append_cancel_right_eq] at hout
    cases print_injective hout
    rfl

/-- The rows of a complete table in descending order. -/
def descendingRows : List String := [
  "1 1111=>30", "1 1110=>32", "1 1101=>28", "1 1100=>16",
  "1 1011=>26", "1 1010=>72", "1 1001=>24", "1 1000=>192",
  "1 0111=>22", "1 0110=>96", "1 0101=>20", "1 0100=>48",
  "1 0011=>18", "1 0010=>24", "1 0001=>16", "1 0000=>12",
  "0 1111=>14", "0 1110=>26", "0 1101=>12", "0 1100=>14",
  "0 1011=>10", "0 1010=>60", "0 1001=>8", "0 1000=>160",
  "0 0111=>6", "0 0110=>80", "0 0101=>4", "0 0100=>40",
  "0 0011=>2", "0 0010=>20", "0 0001=>254", "0 0000=>10"]

/-- The text of these rows. -/
def descendingText : String :=
  "\n".intercalate descendingRows

/-- The ticks of these rows, in the order of the indices. -/
def descendingTicks : Vector UInt16 32 :=
  #v[10, 254, 20, 2, 40, 4, 80, 6, 160, 8, 60, 10, 14, 12, 26, 14,
     12, 16, 24, 18, 48, 20, 96, 22, 192, 24, 72, 26, 16, 28, 32, 30]

/-- The entries of these rows, in the order of the indices. -/
def descendingEntries : List Entry :=
  (descendingRows.reverse.zip descendingTicks.toList).zipIdx.map fun ((line, ticks), i) =>
    { index := UInt8.ofNat i, line, ticks := some ticks }

lemma newline_notMem_of_mem_descendingRows : ∀ line ∈ descendingRows, '\n' ∉ line.toList := by
  decide +kernel

lemma lines_descendingText : lines descendingText = descendingRows :=
  lines_intercalate (by decide) newline_notMem_of_mem_descendingRows

lemma statesTicks_descendingText : StatesTicks descendingText descendingTicks := by
  have hread : (read descendingText).outcome = .ok descendingEntries.reverse := by
    rw [outcome_read, lines_descendingText]
    decide +kernel
  have hsort : Entry.sort descendingEntries.reverse = descendingEntries := by
    rw [← sort_eq_of_perm (List.reverse_perm _).symm (by decide +kernel),
      Entry.sort_eq_self (by decide +kernel)]
  exact ⟨descendingEntries, readSorted_eq_ok_iff.mpr ⟨_, hread, hsort⟩, rfl, by decide +kernel⟩

theorem lookup_report_of_complete_table_descendingText :
    (Source.text (holding descendingText) (.file "down.txt")).outcome = .ok descendingText
      ∧ StatesTicks descendingText descendingTicks
      ∧ (report (holding descendingText) { source := .file "down.txt", layout := .lookup }).outcome
          = .ok ("[10, 254, 20, 2, 40, 4, 80, 6, 160, 8, 60, 10, 14, 12, 26, 14, "
              ++ "12, 16, 24, 18, 48, 20, 96, 22, 192, 24, 72, 26, 16, 28, 32, 30]\n") := by
  have htext := outcome_text_holding descendingText "down.txt"
  obtain ⟨hcomplete, hline, -⟩ := lookup_report_of_complete_table htext
  obtain ⟨out, hout⟩ := hcomplete.mpr ⟨_, statesTicks_descendingText⟩
  obtain ⟨line, rfl, -, rfl, -⟩ := hline out _ hout statesTicks_descendingText
  refine ⟨htext, statesTicks_descendingText, hout.trans ?_⟩
  decide +kernel

end TicksAndWidths.Table
