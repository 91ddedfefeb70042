import Mathlib.Tactic
import TicksAndWidths.Proofs.Table.Arrangement
import TicksAndWidths.Proofs.Text.Lines

/-!
Reading the rows of a sorted table again.

* `rejoined`: the text of the rows of some entries.
* `IsReread`: the row of an entry is a row still, and is read as the entry by itself.
  `isReread_of_read` says so of every entry of a text.
* `read_rejoined`: rows that are put together to a text are read as they were, under no heading.
* `readSorted_rejoined`: **sorting again changes nothing**, apart from the headings, which
  neither the tuples nor the length table show.
-/

namespace TicksAndWidths.Table

/-- The rows of some entries, put together to a text. -/
def rejoined (entries : List Entry) : String :=
  "\n".intercalate (entries.map (·.line))

/-! ### Rows by themselves -/

/-- The row of an entry is one line, it is a row, and it is read as the entry under no heading. -/
structure IsReread (entry : Entry) : Prop where
  newline_notMem : '\n' ∉ entry.line.toList
  isRow : isRow entry.line.toList
  readRow : (readRow entry.line).outcome = .ok entry.bare

lemma newline_notMem_of_mem_lines {text line : String} (h : line ∈ lines text) :
    '\n' ∉ line.toList := by
  obtain ⟨cs, hcs, rfl⟩ := List.mem_map.mp h
  rw [String.toList_ofList]
  exact Text.newline_notMem_of_mem_splitOn hcs

/-- Every entry of a text is read again from its row. -/
lemma isReread_of_read {text : String} {entries : List Entry}
    (h : (read text).outcome = .ok entries) : ∀ entry ∈ entries, IsReread entry := by
  have hread := areRead_of_read h
  rw [← map_line_of_read h, AreRead, List.forall₂_map_left_iff, List.forall₂_map_right_iff,
    List.forall₂_same] at hread
  intro entry hentry
  have hrow : entry.line ∈ rowsOf (lines text) := by
    rw [← map_line_of_read h]
    exact List.mem_map_of_mem hentry
  obtain ⟨hline, hisRow⟩ := List.mem_filter.mp hrow
  exact ⟨newline_notMem_of_mem_lines hline, hisRow, hread entry hentry⟩

/-! ### Rows put together -/

/-- Rows with no other line among them are read one by one, under no heading. -/
lemma readLines_map_line {entries : List Entry} (h : ∀ entry ∈ entries, IsReread entry) :
    (readLines none (entries.map (·.line))).outcome = .ok (entries.map Entry.bare) := by
  induction entries with
  | nil => rfl
  | cons entry entries ih =>
      obtain ⟨hentry, hentries⟩ := List.forall_mem_cons.mp h
      rw [List.map_cons, readLines_cons_of_row hentry.isRow, hentry.readRow, Logged.ok_bind,
        ih hentries]
      rfl

/-- Rows that are put together to a text are read as they were, under no heading. -/
lemma read_rejoined {entries : List Entry} (h : ∀ entry ∈ entries, IsReread entry) :
    (read (rejoined entries)).outcome = .ok (entries.map Entry.bare) := by
  cases entries with
  | nil => rfl
  | cons entry rest =>
      have hbreak : ∀ line ∈ (entry :: rest).map (·.line), '\n' ∉ line.toList := by
        intro line hline
        obtain ⟨e, he, rfl⟩ := List.mem_map.mp hline
        exact (h e he).newline_notMem
      rw [outcome_read, rejoined, lines_intercalate (by simp) hbreak, readLines_map_line h]

/-! ### Sorting again -/

/-- **Sorting again changes nothing.**  The rows of a sorted table, put together to a text, are read
and sorted as the same entries in the same order, each under no heading.  So the tuples and the
length table of that text are those of the first, or fail in the same way. -/
theorem readSorted_rejoined {text : String} {entries : List Entry}
    (h : (readSorted text).outcome = .ok entries) :
    (readSorted (rejoined entries)).outcome
        = .ok (entries.map fun entry => { entry with heading := none })
      ∧ ∀ disk disk' source source' layout, (source.text disk).outcome = .ok text →
          (source'.text disk').outcome = .ok (rejoined entries) → layout ≠ .json →
          (report disk' { source := source', layout }).outcome
            = (report disk { source, layout }).outcome := by
  obtain ⟨unsorted, hread, rfl⟩ := readSorted_eq_ok_iff.mp h
  have hreread : ∀ entry ∈ Entry.sort unsorted, IsReread entry := fun entry hentry =>
    isReread_of_read hread entry ((Entry.sort_perm unsorted).mem_iff.mp hentry)
  have hsorted : Entry.sort ((Entry.sort unsorted).map Entry.bare)
      = (Entry.sort unsorted).map Entry.bare := by
    rw [sort_map_bare, Entry.sort_eq_self (Entry.pairwise_sort unsorted)]
  have hrejoined : (readSorted (rejoined (Entry.sort unsorted))).outcome
      = .ok ((Entry.sort unsorted).map Entry.bare) :=
    readSorted_eq_ok_iff.mpr ⟨_, read_rejoined hreread, hsorted⟩
  refine ⟨hrejoined, fun disk disk' source source' layout htext htext' hlayout => ?_⟩
  rw [outcome_report htext, outcome_report htext', h, hrejoined, Logged.ok_bind, Logged.ok_bind,
    write_map_bare _ hlayout]

theorem readSorted_rejoined_repeatedText :
    (readSorted repeatedText).outcome
        = .ok [{ index := 1, line := "0 0001 c" }, { index := 3, line := "0 0011 b" },
               { index := 3, line := "0 0011 a", heading := some "Low" }]
      ∧ (readSorted "0 0001 c\n0 0011 b\n0 0011 a").outcome
        = .ok [{ index := 1, line := "0 0001 c" }, { index := 3, line := "0 0011 b" },
               { index := 3, line := "0 0011 a" }]
      ∧ (report (holding "0 0001 c\n0 0011 b\n0 0011 a") { source := .file "b.txt" }).outcome
        = (report (holding repeatedText) { source := .file "a.txt" }).outcome := by
  have entries : (read repeatedText).outcome
      = .ok [{ index := 3, line := "0 0011 b" }, { index := 1, line := "0 0001 c" },
             { index := 3, line := "0 0011 a", heading := some "Low" }] := by decide +kernel
  have blocks : Entry.sort [{ index := 3, line := "0 0011 b" }, { index := 1, line := "0 0001 c" },
        { index := 3, line := "0 0011 a", heading := some "Low" }]
      = [{ index := 1, line := "0 0001 c" }, { index := 3, line := "0 0011 b" },
         { index := 3, line := "0 0011 a", heading := some "Low" }] := by
    rw [(isStableSort_sort _).eq_flatMap (index_lt_of_read entries)]
    decide +kernel
  have sorted := readSorted_eq_ok_iff.mpr ⟨_, entries, blocks⟩
  have text : rejoined [{ index := 1, line := "0 0001 c" }, { index := 3, line := "0 0011 b" },
      { index := 3, line := "0 0011 a", heading := some "Low" }]
        = "0 0001 c\n0 0011 b\n0 0011 a" := by decide +kernel
  obtain ⟨hread, hreport⟩ := readSorted_rejoined sorted
  rw [text] at hread hreport
  exact ⟨sorted, hread, hreport _ _ (.file "a.txt") (.file "b.txt") .tuple
    (outcome_text_holding _ _) (outcome_text_holding _ _) (by decide)⟩

end TicksAndWidths.Table
