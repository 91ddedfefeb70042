import Mathlib.Tactic
import TicksAndWidths.Proofs.Table.Rows

/-!
What is logged while a table is read, and what the entries have to do with it.

* `warning?`: the warning that a row calls for.  `records_readRow` says that a row logs this and
  nothing else, and `records_readLines` that lines log the warnings of their rows up to the first
  one that cannot be read.
* `DifferInMark`: two rows are alike but for the marks that they hold.  `unmarkedLines?_of_alike`
  says that their entries are alike then, whether the marks agree with the indices or not.
* `records_read`: **reading a table logs the warnings of its rows**, and their number at the end.
-/

namespace TicksAndWidths.Table

/-! ### The log of a row -/

/-- The warning that a row calls for: its mark is there and differs from its index. -/
def warning? (line : String) : Option LogRecord :=
  match readIndex line, (Annotations.ofText (line.toList.drop indexWidth)).hex with
  | .ok index, some mark =>
    if mark ≠ index then some ⟨.warn, .rows, mismatchText line mark index⟩ else none
  | _, _ => none

/-- Whether a row can be read. -/
def isReadable (line : String) : Bool :=
  (readRow line).outcome.isOk

lemma isReadable_of_ok {line : String} {entry : Entry} (h : (readRow line).outcome = .ok entry) :
    isReadable line := by
  rw [isReadable, h]
  rfl

lemma not_isReadable_of_error {line : String} {e : Error} (h : (readRow line).outcome = .error e) :
    ¬ isReadable line := by
  rw [isReadable, h]
  exact Bool.false_ne_true

lemma records_checkMark (line : String) (mark : Option UInt8) (index : UInt8) :
    (checkMark line mark index).records
      = match mark with
        | some mark =>
          if mark ≠ index then [⟨.warn, .rows, mismatchText line mark index⟩] else []
        | none => [] := by
  cases mark with
  | none => rfl
  | some mark =>
      simp only [checkMark]
      split <;> rfl

/-- A row logs the warning that it calls for, and nothing else. -/
lemma records_readRow (line : String) : (readRow line).records = (warning? line).toList := by
  rw [readRow, warning?]
  cases hindex : readIndex line with
  | error e => rw [Logged.records_bind_of_error (Logged.outcome_ofExcept _)]; rfl
  | ok index =>
      rw [Logged.records_bind_of_ok (Logged.outcome_ofExcept _), Logged.records_ofExcept,
        List.nil_append, Logged.records_bind_of_ok (outcome_checkMark ..), Logged.records_pure,
        List.append_nil, records_checkMark]
      cases (Annotations.ofText (line.toList.drop indexWidth)).hex with
      | none => rfl
      | some mark =>
          dsimp only
          split_ifs <;> rfl

/-- A row that cannot be read calls for no warning. -/
lemma warning?_of_error {line : String} {e : Error} (h : (readRow line).outcome = .error e) :
    warning? line = none := by
  rw [outcome_readRow] at h
  rw [warning?]
  cases hindex : readIndex line with
  | error e => rfl
  | ok index =>
      rw [hindex] at h
      cases h

/-! ### The log of a table -/

/-- The record of how many rows were read, if they were. -/
def countRecord (outcome : Except Error (List Entry)) : List LogRecord :=
  match outcome with
  | .ok entries => [⟨.debug, .rows, "Parsed " ++ toString entries.length ++ " table rows"⟩]
  | .error _ => []

/-- Lines log the warnings of their rows, up to the first one that cannot be read. -/
lemma records_readLines (heading : Option String) (ls : List String) :
    (readLines heading ls).records = ((rowsOf ls).takeWhile isReadable).filterMap warning? := by
  induction ls generalizing heading with
  | nil => rfl
  | cons line rest ih =>
      by_cases hrow : isRow line.toList
      · rw [rowsOf_cons_of_row hrow, readLines, if_pos hrow]
        cases hentry : (readRow line).outcome with
        | error e =>
            rw [Logged.records_bind_of_error hentry, records_readRow, warning?_of_error hentry,
              List.takeWhile_cons_of_neg (not_isReadable_of_error hentry)]
            rfl
        | ok entry =>
            have hrest : (readLines heading rest >>= fun entries =>
                (pure ({ entry with heading } :: entries) : Logged Error _)).records
                  = (readLines heading rest).records := by
              cases hentries : (readLines heading rest).outcome with
              | error e => rw [Logged.records_bind_of_error hentries]
              | ok entries =>
                  rw [Logged.records_bind_of_ok hentries, Logged.records_pure, List.append_nil]
            rw [Logged.records_bind_of_ok hentry, hrest, ih, records_readRow,
              List.takeWhile_cons_of_pos (isReadable_of_ok hentry), List.filterMap_cons]
            cases warning? line <;> rfl
      · rw [rowsOf_cons_of_not_row hrow, readLines_cons_of_not_row hrow, ih]

/-- A table logs the warnings of its rows, and their number at the end. -/
lemma records_read (text : String) :
    (read text).records
      = ((rowsOf (lines text)).takeWhile isReadable).filterMap warning?
        ++ countRecord (read text).outcome := by
  rw [outcome_read]
  rw [read]
  cases hentries : (readLines none (lines text)).outcome with
  | error e =>
      rw [Logged.records_bind_of_error hentries, records_readLines, countRecord, List.append_nil]
  | ok entries =>
      rw [Logged.records_bind_of_ok hentries, records_readLines,
        Logged.records_bind_of_ok (Logged.outcome_write ..)]
      rfl

/-! ### Rows that differ in their marks -/

/-- An entry without its row and without the mark in it. -/
def Entry.unmarked (entry : Entry) : Entry :=
  { entry with line := "", hex := none }

/-- Two rows begin with the same six characters and hold marks, maybe different ones, before the
same text. -/
structure DifferInMark (line line' : String) : Prop where
  isRow : isRow line.toList
  take_eq : line.toList.take indexWidth = line'.toList.take indexWidth
  exists_marks : ∃ mark mark' rest, hexMark? (line.toList.drop indexWidth) = some (mark, rest)
    ∧ hexMark? (line'.toList.drop indexWidth) = some (mark', rest)

/-- Two lines are the same, or rows that differ in their marks. -/
def Alike (line line' : String) : Prop :=
  line = line' ∨ DifferInMark line line'

lemma isRow_eq_of_take_eq {line line' : List Char}
    (h : line.take indexWidth = line'.take indexWidth) : isRow line = isRow line' := by
  cases line <;> cases line' <;> simp_all [isRow, indexWidth]

/-- What is read of a row, but for the row itself and its mark. -/
def unmarkedRow? (line : String) : Option Entry :=
  (readRow line).outcome.toOption.map Entry.unmarked

/-- What is read of lines, but for the rows themselves and their marks. -/
def unmarkedLines? (heading : Option String) (ls : List String) : Option (List Entry) :=
  (readLines heading ls).outcome.toOption.map fun entries => entries.map Entry.unmarked

/-- What a row states behind its mark is read of the text there. -/
lemma ofText_of_hexMark? {text rest : List Char} {mark : UInt8}
    (h : hexMark? text = some (mark, rest)) :
    (Annotations.ofText text).ticks = (optional ticks? rest).1
      ∧ (Annotations.ofText text).note
        = (optional remark? (optional ticks? rest).2).1.map fun words =>
            String.ofList (Unicode.trim words) := by
  simp [Annotations.ofText, optional, h]

/-- What rows state beside their marks does not depend on these. -/
lemma DifferInMark.unmarkedRow?_eq {line line' : String} (h : DifferInMark line line') :
    unmarkedRow? line = unmarkedRow? line' := by
  obtain ⟨mark, mark', rest, hmark, hmark'⟩ := h.exists_marks
  obtain ⟨hticks, hnote⟩ := ofText_of_hexMark? hmark
  obtain ⟨hticks', hnote'⟩ := ofText_of_hexMark? hmark'
  have hindex := @readIndex_eq_ok_iff_of_take_eq line line' h.take_eq
  rw [unmarkedRow?, unmarkedRow?, outcome_readRow, outcome_readRow]
  cases hline : readIndex line with
  | ok index =>
      rw [hindex.mp hline, Logged.ok_bind, Logged.ok_bind]
      simp [Except.toOption, Entry.unmarked, hticks, hnote, hticks', hnote']
  | error e =>
      cases hline' : readIndex line' with
      | error e' => rfl
      | ok index => cases hline.symm.trans (hindex.mpr hline')

/-- What is read of a row and of the lines below it, but for the marks, is read of each by
itself. -/
lemma unmarkedLines?_cons_of_row {line : String} (h : isRow line.toList) (heading : Option String)
    (rest : List String) :
    unmarkedLines? heading (line :: rest)
      = (unmarkedRow? line).bind fun entry =>
          (unmarkedLines? heading rest).map fun entries => { entry with heading } :: entries := by
  rw [unmarkedLines?, readLines_cons_of_row h, unmarkedRow?, unmarkedLines?]
  cases (readRow line).outcome with
  | error e => rfl
  | ok entry =>
      cases (readLines heading rest).outcome with
      | error e => rfl
      | ok entries => rfl

lemma unmarkedLines?_cons_of_not_row {line : String} (h : ¬ isRow line.toList)
    (heading : Option String) (rest : List String) :
    unmarkedLines? heading (line :: rest)
      = unmarkedLines? (heading? line <|> heading) rest := by
  rw [unmarkedLines?, readLines_cons_of_not_row h, unmarkedLines?]

/-- Lines that differ in the marks of rows are read alike. -/
lemma unmarkedLines?_of_alike {ls ls' : List String} (h : List.Forall₂ Alike ls ls')
    (heading : Option String) : unmarkedLines? heading ls = unmarkedLines? heading ls' := by
  induction h generalizing heading with
  | nil => rfl
  | @cons line line' rest rest' halike _ ih =>
      rcases halike with rfl | hdiffer
      · by_cases hrow : isRow line.toList
        · rw [unmarkedLines?_cons_of_row hrow, unmarkedLines?_cons_of_row hrow, ih]
        · rw [unmarkedLines?_cons_of_not_row hrow, unmarkedLines?_cons_of_not_row hrow, ih]
      · have hrow' : isRow line'.toList :=
          isRow_eq_of_take_eq hdiffer.take_eq ▸ hdiffer.isRow
        rw [unmarkedLines?_cons_of_row hdiffer.isRow, unmarkedLines?_cons_of_row hrow',
          hdiffer.unmarkedRow?_eq, ih]

/-! ### The log and the entries of a table -/

/-- An entry keeps what a row says: the row, the index it spells, and what it states beside that. -/
def Keeps (line : String) (entry : Entry) : Prop :=
  entry.line = line ∧ readIndex line = .ok entry.index
    ∧ Annotations.ofText (line.toList.drop indexWidth)
      = { hex := entry.hex, ticks := entry.ticks, note := entry.note }

/-- The entries of a table keep what its rows say. -/
lemma forall₂_keeps_of_read {text : String} {entries : List Entry}
    (h : (read text).outcome = .ok entries) :
    List.Forall₂ Keeps (rowsOf (lines text)) entries := by
  rw [← map_snd_rowsWithAbove, List.forall₂_map_left_iff]
  refine (forall₂_of_read h).imp ?_
  rintro row entry ⟨plain, hplain, rfl⟩
  rw [outcome_readRow] at hplain
  cases hindex : readIndex row.2 with
  | error e =>
      rw [hindex] at hplain
      cases hplain
  | ok index =>
      rw [hindex] at hplain
      cases hplain
      exact ⟨rfl, hindex, rfl⟩

/-- **Reading a table logs every row whose mark disagrees with its index, and nothing else** but the
number of rows at the end, if all of them can be read.  The rows behind the first one that cannot be
read are not logged.  The entries keep the mark and the index of each row as they stand, and but for
the marks they are the same if other marks stand in the rows. -/
theorem read_logs_mismatches (text : String) :
    (read text).records
        = ((rowsOf (lines text)).takeWhile isReadable).filterMap warning?
          ++ countRecord (read text).outcome
      ∧ (∀ entries, (read text).outcome = .ok entries →
        List.Forall₂ Keeps (rowsOf (lines text)) entries)
      ∧ ∀ text', List.Forall₂ Alike (lines text) (lines text') →
        (read text).outcome.toOption.map (List.map Entry.unmarked)
          = (read text').outcome.toOption.map (List.map Entry.unmarked) := by
  refine ⟨records_read text, fun entries h => forall₂_keeps_of_read h, fun text' h => ?_⟩
  rw [outcome_read, outcome_read]
  exact unmarkedLines?_of_alike h none

/-- Rows whose marks are wrong, right and not there, and a row that cannot be read before another
whose mark is wrong. -/
def wrongMarks : String :=
  "0 0001 (02) => 254\nLow\n0 0010 (02) => 20\n0 0011\n0 002 (07)\n0 0101 (06)"

/-- Two rows of which the first has a wrong mark. -/
def oneWrongMark : String :=
  "0 0001 (F0) => 254\n0 0010 (02)"

/-- The same rows with a right mark. -/
def noWrongMark : String :=
  "0 0001 (1) => 254\n0 0010 (02)"

theorem read_logs_mismatches_wrongMarks :
    (read wrongMarks).records
        = [⟨.warn, .rows, "Row '0 0001 (02) => 254' is annotated (02) but its binary index is 1"⟩]
      ∧ (read oneWrongMark).records
        = [⟨.warn, .rows, "Row '0 0001 (F0) => 254' is annotated (F0) but its binary index is 1"⟩,
           ⟨.debug, .rows, "Parsed 2 table rows"⟩]
      ∧ (read noWrongMark).records = [⟨.debug, .rows, "Parsed 2 table rows"⟩]
      ∧ (∃ entries, (read oneWrongMark).outcome = .ok entries
        ∧ List.Forall₂ Keeps ["0 0001 (F0) => 254", "0 0010 (02)"] entries)
      ∧ (read oneWrongMark).outcome.toOption.map (List.map Entry.unmarked)
        = (read noWrongMark).outcome.toOption.map (List.map Entry.unmarked) := by
  have hlines : lines oneWrongMark = ["0 0001 (F0) => 254", "0 0010 (02)"] := by decide +kernel
  have hlines' : lines noWrongMark = ["0 0001 (1) => 254", "0 0010 (02)"] := by decide +kernel
  have halike : List.Forall₂ Alike (lines oneWrongMark) (lines noWrongMark) := by
    rw [hlines, hlines']
    refine .cons (.inr ⟨by decide +kernel, by decide +kernel, 0xf0, 1, " => 254".toList, ?_, ?_⟩)
      (.cons (.inl rfl) .nil)
    · decide +kernel
    · decide +kernel
  have hclean : firstSpoiled? (rowsOf (lines oneWrongMark)) = none := by decide +kernel
  obtain ⟨entries, hentries, -⟩ := exists_read hclean
  have hrows : rowsOf (lines oneWrongMark) = ["0 0001 (F0) => 254", "0 0010 (02)"] := by
    decide +kernel
  obtain ⟨hrecords, hkeeps, hmarks⟩ := read_logs_mismatches oneWrongMark
  refine ⟨?_, ?_, ?_, ⟨entries, hentries, hrows ▸ hkeeps entries hentries⟩, hmarks _ halike⟩
  · rw [(read_logs_mismatches wrongMarks).1]
    decide +kernel
  · rw [hrecords]
    decide +kernel
  · rw [(read_logs_mismatches noWrongMark).1]
    decide +kernel

end TicksAndWidths.Table
