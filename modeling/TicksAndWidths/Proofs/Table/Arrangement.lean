import Mathlib.Tactic
import TicksAndWidths.Proofs.Table.Lengths

/-!
Which arrangements of the rows of a text have the same report.

* `Entry.bare`: an entry without its heading.  `write_map_bare` says that neither the tuples nor the
  length table show a heading.
* `AreRead`: what some rows are read as, each by itself.  `areRead_of_read` and
  `exists_read_of_areRead` say that the entries of a text are these, under headings.
* `outcome_report_of_areRead`: a report is made from the rows alone.
* `report_of_rearranged_rows`: **the order of the rows and the headings do not show** in a length
  table that is reported, nor in any report of rows that are read with distinct indices, JSON apart.
-/

namespace TicksAndWidths.Table

/-! ### Entries without headings -/

/-- An entry without its heading. -/
def Entry.bare (entry : Entry) : Entry :=
  { entry with heading := none }

/-- Leaving out the headings does not change the order. -/
lemma sort_map_bare (entries : List Entry) :
    Entry.sort (entries.map Entry.bare) = (Entry.sort entries).map Entry.bare := by
  rw [Entry.sort, Entry.sort, List.map_mergeSort]
  exact fun _ _ _ _ => rfl

lemma ofEntries_map_bare (entries : List Entry) :
    LengthTable.ofEntries (entries.map Entry.bare) = LengthTable.ofEntries entries := by
  rw [LengthTable.ofEntries, LengthTable.ofEntries, List.foldlM_map]
  rfl

/-- Neither the tuples nor the length table show a heading. -/
lemma write_map_bare (entries : List Entry) {layout : Layout} (h : layout ≠ .json) :
    write (entries.map Entry.bare) layout = write entries layout := by
  cases layout with
  | tuple =>
      rw [write_tuple, write_tuple, List.flatMap_map]
      rfl
  | lookup => rw [write_lookup, write_lookup, ofEntries_map_bare]
  | json => exact absurd rfl h

/-! ### Rows by themselves -/

/-- Some entries are what rows are read as, each by itself. -/
def AreRead (rows : List String) (entries : List Entry) : Prop :=
  List.Forall₂ (fun line entry => (readRow line).outcome = .ok entry) rows entries

lemma AreRead.unique {rows : List String} {entries entries' : List Entry}
    (h : AreRead rows entries) (h' : AreRead rows entries') : entries = entries' := by
  refine Relator.RightUnique.forall₂ ?_ h h'
  intro line entry entry' hentry hentry'
  exact Except.ok.inj (hentry.symm.trans hentry')

/-- No index of rows that are read is spoiled. -/
lemma AreRead.firstSpoiled?_eq_none {rows : List String} {entries : List Entry}
    (h : AreRead rows entries) : firstSpoiled? rows = none := by
  induction h with
  | nil => rfl
  | @cons line entry rows entries hentry _ ih =>
      cases hstray : stray? line with
      | some c =>
          rw [readRow_of_stray hstray] at hentry
          cases hentry
      | none => rw [firstSpoiled?_cons_of_clean hstray, ih]

/-- The entries of a text, without their headings, are what its rows are read as. -/
lemma areRead_of_read {text : String} {entries : List Entry}
    (h : (read text).outcome = .ok entries) :
    AreRead (rowsOf (lines text)) (entries.map Entry.bare) := by
  rw [AreRead, ← map_snd_rowsWithAbove, List.forall₂_map_left_iff, List.forall₂_map_right_iff]
  refine (forall₂_of_read h).imp ?_
  rintro row entry ⟨plain, hplain, rfl⟩
  obtain ⟨-, hheading, -⟩ := of_readRow_eq_ok hplain
  have hbare : Entry.bare { plain with heading := headingBelow row.1 } = plain := by
    rw [Entry.bare, ← hheading]
  rw [hbare]
  exact hplain

/-- A text whose rows are read has them as its entries, without the headings of these. -/
lemma exists_read_of_areRead {text : String} {plain : List Entry}
    (h : AreRead (rowsOf (lines text)) plain) :
    ∃ entries, (read text).outcome = .ok entries ∧ entries.map Entry.bare = plain := by
  obtain ⟨entries, hentries, -⟩ := exists_read h.firstSpoiled?_eq_none
  exact ⟨entries, hentries, (areRead_of_read hentries).unique h⟩

/-- A report without JSON is made from the rows alone. -/
lemma outcome_report_of_areRead {disk : Files.Disk} {source : Source} {text : String}
    (htext : (source.text disk).outcome = .ok text) {plain : List Entry}
    (h : AreRead (rowsOf (lines text)) plain) {layout : Layout} (hlayout : layout ≠ .json) :
    (report disk { source, layout }).outcome = write (Entry.sort plain) layout := by
  obtain ⟨entries, hentries, rfl⟩ := exists_read_of_areRead h
  have hsorted := readSorted_eq_ok_iff.mpr ⟨entries, hentries, rfl⟩
  rw [outcome_report htext, hsorted, Logged.ok_bind, sort_map_bare, write_map_bare _ hlayout]

/-! ### Rows in another order -/

/-- Rows in another order are read as the same entries in another order. -/
lemma AreRead.perm {rows rows' : List String} {entries : List Entry} (h : AreRead rows entries)
    (hrows : rows.Perm rows') : ∃ entries', AreRead rows' entries' ∧ entries'.Perm entries :=
  List.perm_comp_forall₂ hrows.symm h

/-- Rows with distinct indices have the same report in any order. -/
lemma outcome_report_of_perm {disk disk' : Files.Disk} {source source' : Source}
    {text text' : String} (htext : (source.text disk).outcome = .ok text)
    (htext' : (source'.text disk').outcome = .ok text')
    (hrows : (rowsOf (lines text)).Perm (rowsOf (lines text'))) {plain : List Entry}
    (hplain : AreRead (rowsOf (lines text)) plain) (hnodup : (plain.map (·.index)).Nodup)
    {layout : Layout} (hlayout : layout ≠ .json) :
    (report disk { source, layout }).outcome
      = (report disk' { source := source', layout }).outcome := by
  obtain ⟨plain', hplain', hperm⟩ := hplain.perm hrows
  rw [outcome_report_of_areRead htext hplain hlayout,
    outcome_report_of_areRead htext' hplain' hlayout, sort_eq_of_perm hperm.symm hnodup]

/-- The rows of a complete table have distinct indices. -/
lemma StatesTicks.exists_areRead {text : String} {ticks : Vector UInt16 32}
    (h : StatesTicks text ticks) :
    ∃ plain, AreRead (rowsOf (lines text)) plain ∧ (plain.map (·.index)).Nodup := by
  obtain ⟨sorted, hsorted, hlists⟩ := h
  obtain ⟨entries, hread, rfl⟩ := readSorted_eq_ok_iff.mp hsorted
  have hnodup := hlists.faultless.nodup
  rw [((Entry.sort_perm entries).map _).nodup_iff] at hnodup
  exact ⟨_, areRead_of_read hread, by rw [List.map_map]; exact hnodup⟩

/-- A length table that is reported is reported of the same rows in any order. -/
lemma report_lookup_of_perm {disk disk' : Files.Disk} {source source' : Source}
    {text text' : String} (htext : (source.text disk).outcome = .ok text)
    (htext' : (source'.text disk').outcome = .ok text')
    (hrows : (rowsOf (lines text)).Perm (rowsOf (lines text'))) {out : String}
    (hout : (report disk { source, layout := .lookup }).outcome = .ok out) :
    (report disk' { source := source', layout := .lookup }).outcome = .ok out := by
  obtain ⟨table, hstates, -⟩ := (report_lookup_eq_ok_iff htext).mp hout
  obtain ⟨plain, hplain, hnodup⟩ := hstates.exists_areRead
  rw [← outcome_report_of_perm htext htext' hrows hplain hnodup (by decide), hout]

/-- **The order of the rows and the headings do not show in a report.**  Two texts with the same
rows, in whatever order and under whatever headings, have the same length table, if either has one.
If the rows are read and have distinct indices, the texts also have the same tuples, and the length
table of both fails in the same way if it fails. -/
theorem report_of_rearranged_rows {disk disk' : Files.Disk} {source source' : Source}
    {text text' : String} (htext : (source.text disk).outcome = .ok text)
    (htext' : (source'.text disk').outcome = .ok text')
    (hrows : (rowsOf (lines text)).Perm (rowsOf (lines text'))) :
    (∀ out, (report disk { source, layout := .lookup }).outcome = .ok out
        ↔ (report disk' { source := source', layout := .lookup }).outcome = .ok out)
      ∧ ∀ plain, AreRead (rowsOf (lines text)) plain → (plain.map (·.index)).Nodup →
          (∃ out, (report disk { source, layout := .tuple }).outcome = .ok out
            ∧ (report disk' { source := source', layout := .tuple }).outcome = .ok out)
          ∧ (report disk { source, layout := .lookup }).outcome
              = (report disk' { source := source', layout := .lookup }).outcome := by
  refine ⟨fun out => ⟨?_, ?_⟩, fun plain hplain hnodup => ⟨?_, ?_⟩⟩
  · exact report_lookup_of_perm htext htext' hrows
  · exact report_lookup_of_perm htext' htext hrows.symm
  · have hreport : (report disk { source, layout := .tuple }).outcome
        = write (Entry.sort plain) .tuple :=
      outcome_report_of_areRead htext hplain (by decide)
    rw [write_tuple] at hreport
    refine ⟨_, hreport, ?_⟩
    rw [← outcome_report_of_perm htext htext' hrows hplain hnodup (by decide), hreport]
  · exact outcome_report_of_perm htext htext' hrows hplain hnodup (by decide)

/-- The rows of `descendingText` in ascending order, under a heading. -/
def ascendingText : String :=
  "\n".intercalate ("From low to high:" :: descendingRows.reverse)

theorem report_of_rearranged_rows_ascendingText :
    (Source.text (holding descendingText) (.file "down.txt")).outcome = .ok descendingText
      ∧ (Source.text (holding ascendingText) (.file "up.txt")).outcome = .ok ascendingText
      ∧ (rowsOf (lines descendingText)).Perm (rowsOf (lines ascendingText))
      ∧ (∃ plain, AreRead (rowsOf (lines descendingText)) plain ∧ (plain.map (·.index)).Nodup)
      ∧ (report (holding ascendingText) { source := .file "up.txt", layout := .lookup }).outcome
          = .ok (String.ofList (LengthTable.print ⟨descendingTicks⟩ ++ ['\n']))
      ∧ ∃ out,
          (report (holding descendingText) { source := .file "down.txt", layout := .tuple }).outcome
            = .ok out
          ∧ (report (holding ascendingText) { source := .file "up.txt", layout := .tuple }).outcome
            = .ok out := by
  have htext := outcome_text_holding descendingText "down.txt"
  have htext' := outcome_text_holding ascendingText "up.txt"
  have hrows : (rowsOf (lines descendingText)).Perm (rowsOf (lines ascendingText)) := by
    have hlines : lines ascendingText = "From low to high:" :: descendingRows.reverse := by
      refine lines_intercalate (by decide) fun line hline => ?_
      rcases List.mem_cons.mp hline with rfl | hline
      · decide +kernel
      · exact newline_notMem_of_mem_descendingRows line (List.mem_reverse.mp hline)
    have hheading : ¬ isRow "From low to high:".toList := by decide +kernel
    rw [lines_descendingText, hlines, rowsOf_cons_of_not_row hheading]
    exact (List.reverse_perm descendingRows).symm.filter _
  obtain ⟨plain, hplain, hnodup⟩ := statesTicks_descendingText.exists_areRead
  obtain ⟨hlookup, hdistinct⟩ := report_of_rearranged_rows htext htext' hrows
  have hout := statesTicks_descendingText.report_lookup htext
  exact ⟨htext, htext', hrows, ⟨plain, hplain, hnodup⟩, (hlookup _).mp hout,
    (hdistinct plain hplain hnodup).1⟩

end TicksAndWidths.Table
