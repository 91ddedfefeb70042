import Mathlib.Tactic
import TicksAndWidths.Proofs.Table.Indices
import TicksAndWidths.Table.Reading

/-!
What the lines of a table say, and how they are read.

* `lines_intercalate`: lines put together to a text are the lines of it.
* `rowsOf`, `rowsWithAbove`: the rows among some lines, by themselves and with the lines above them.
* `headingBelow`: the heading that some lines leave to a row below them, which is the last of their
  headings.
* `firstSpoiled?`: the first row whose index is spoiled, and the character that spoils it.
* `readRow_of_stray` and `exists_readRow`: a row is read unless its index is spoiled.
* `readLines_of_spoiled` and `exists_readLines`: the same for lines below others.
* `read_rows_below_headings`: **a table is read row by row**, each row under the heading above it,
  unless the index of a row is spoiled.
-/

namespace TicksAndWidths.Table

open Text Unicode

/-! ### Lines -/

/-- The lines that a text is put together from are its lines again. -/
lemma lines_intercalate {ls : List String} (h : ls ≠ [])
    (hbreak : ∀ line ∈ ls, '\n' ∉ line.toList) : lines ("\n".intercalate ls) = ls := by
  have hsplit : (['\n'].intercalate (ls.map String.toList)).splitOn '\n'
      = ls.map String.toList :=
    List.splitOn_intercalate '\n' (by simpa using hbreak) (by simpa using h)
  have hnewline : "\n".toList = ['\n'] := by simp
  rw [lines, String.toList_intercalate, hnewline, hsplit, List.map_map]
  simp [Function.comp_def]

/-! ### Rows and headings -/

/-- The rows among some lines. -/
def rowsOf (ls : List String) : List String :=
  ls.filter fun line => isRow line.toList

/-- The rows among some lines, each with all the lines above it. -/
def rowsWithAbove (ls : List String) : List (List String × String) :=
  (ls.inits.zip ls).filter fun row => isRow row.2.toList

/-- Whether a line is a heading: no row, and not all white space. -/
def isHeading (line : String) : Bool :=
  ¬ isRow line.toList ∧ ¬ line.toList.all isBlank

/-- The heading of a row below some lines: the last heading among them, trimmed. -/
def headingBelow (above : List String) : Option String :=
  (above.reverse.find? isHeading).map fun line => String.ofList (trim line.toList)

/-- The first row whose index is spoiled, and the character that spoils it. -/
def firstSpoiled? (rows : List String) : Option (String × Char) :=
  rows.findSome? fun line => (stray? line).map fun c => (line, c)

lemma rowsOf_cons_of_row {line : String} (h : isRow line.toList) (rest : List String) :
    rowsOf (line :: rest) = line :: rowsOf rest :=
  List.filter_cons_of_pos h

lemma rowsOf_cons_of_not_row {line : String} (h : ¬ isRow line.toList) (rest : List String) :
    rowsOf (line :: rest) = rowsOf rest :=
  List.filter_cons_of_neg h

lemma firstSpoiled?_cons_of_stray {line : String} {c : Char} (h : stray? line = some c)
    (rows : List String) : firstSpoiled? (line :: rows) = some (line, c) := by
  simp [firstSpoiled?, h]

lemma firstSpoiled?_cons_of_clean {line : String} (h : stray? line = none) (rows : List String) :
    firstSpoiled? (line :: rows) = firstSpoiled? rows := by
  simp [firstSpoiled?, h]

lemma rowsWithAbove_cons (line : String) (rest : List String) :
    rowsWithAbove (line :: rest)
      = (if isRow line.toList then [([], line)] else [])
        ++ (rowsWithAbove rest).map fun row => (line :: row.1, row.2) := by
  have hzip : (List.map (line :: ·) rest.inits).zip rest
      = (rest.inits.zip rest).map fun row => (line :: row.1, row.2) := by
    rw [List.zip_map_left]
    rfl
  rw [rowsWithAbove, List.inits_cons, List.zip_cons_cons, hzip, List.filter_cons, List.filter_map]
  split <;> rfl

/-- The rows in their context are the rows. -/
lemma map_snd_rowsWithAbove (ls : List String) : (rowsWithAbove ls).map Prod.snd = rowsOf ls := by
  induction ls with
  | nil => rfl
  | cons line rest ih =>
      have hrest : ((rowsWithAbove rest).map fun row => (line :: row.1, row.2)).map Prod.snd
          = rowsOf rest := by
        rw [List.map_map]
        exact ih
      rw [rowsWithAbove_cons, List.map_append, hrest]
      split
      · next hrow => rw [rowsOf_cons_of_row hrow, List.map_singleton, List.singleton_append]
      · next hrow => rw [rowsOf_cons_of_not_row hrow, List.map_nil, List.nil_append]

/-- A heading takes the place of the one above it. -/
lemma headingBelow_append_of_heading {line : String} (h : isHeading line) (above : List String) :
    headingBelow (above ++ [line]) = some (String.ofList (trim line.toList)) := by
  simp [headingBelow, h]

/-- A line that is no heading leaves the one above it. -/
lemma headingBelow_append_of_not_heading {line : String} (h : ¬ isHeading line)
    (above : List String) : headingBelow (above ++ [line]) = headingBelow above := by
  simp [headingBelow, h]

lemma not_isHeading_of_isRow {line : String} (h : isRow line.toList) : ¬ isHeading line := by
  simp [isHeading, h]

/-- Passing a line that is no row sets the heading below it. -/
lemma heading?_orElse_headingBelow {line : String} (h : ¬ isRow line.toList)
    (above : List String) :
    (heading? line <|> headingBelow above) = headingBelow (above ++ [line]) := by
  by_cases hblank : line.toList.all isBlank
  · have hnot : ¬ isHeading line := by simp [isHeading, hblank]
    rw [headingBelow_append_of_not_heading hnot, heading?,
      trim_eq_nil_iff.mpr (List.all_eq_true.mp hblank)]
    rfl
  · have hheading : isHeading line := by
      simp only [isHeading, decide_eq_true_eq]
      exact ⟨h, hblank⟩
    rw [headingBelow_append_of_heading hheading, heading?]
    split
    · next hnil => exact absurd (List.all_eq_true.mpr (trim_eq_nil_iff.mp hnil)) hblank
    · rfl

/-! ### One row -/

@[simp] lemma outcome_checkMark (line : String) (mark : Option UInt8) (index : UInt8) :
    (checkMark line mark index).outcome = .ok () := by
  cases mark with
  | none => rfl
  | some mark =>
      simp only [checkMark]
      split <;> rfl

/-- The outcome of reading a row is that of its index, with what the row states beside it. -/
lemma outcome_readRow (line : String) :
    (readRow line).outcome
      = readIndex line >>= fun index =>
          let stated := Annotations.ofText (line.toList.drop indexWidth)
          .ok { index, line, hex := stated.hex, ticks := stated.ticks, note := stated.note } := by
  simp [readRow]

/-- A row whose index is spoiled cannot be read. -/
lemma readRow_of_stray {line : String} {c : Char} (h : stray? line = some c) :
    (readRow line).outcome = .error (.invalidDigit line c) := by
  rw [outcome_readRow, readIndex_of_stray h]
  rfl

/-- Any other row can be read. -/
lemma exists_readRow {line : String} (h : stray? line = none) :
    ∃ entry, (readRow line).outcome = .ok entry := by
  obtain ⟨index, hindex, -⟩ := readIndex_of_clean h
  exact ⟨_, by rw [outcome_readRow, hindex]; rfl⟩

/-- What is read of a row is the row itself, under no heading, with an index below 64. -/
lemma of_readRow_eq_ok {line : String} {entry : Entry} (h : (readRow line).outcome = .ok entry) :
    entry.line = line ∧ entry.heading = none ∧ entry.index.toNat < 64 := by
  cases hstray : stray? line with
  | some c =>
      rw [readRow_of_stray hstray] at h
      cases h
  | none =>
      obtain ⟨index, hindex, -, hlt⟩ := readIndex_of_clean hstray
      rw [outcome_readRow, hindex] at h
      cases h
      exact ⟨rfl, rfl, hlt⟩

/-! ### Lines below others -/

/-- An entry is what a row below some lines is read as: the row by itself, under the heading that
the lines leave to it. -/
def IsEntryBelow (above : List String) (line : String) (entry : Entry) : Prop :=
  ∃ plain, (readRow line).outcome = .ok plain
    ∧ entry = { plain with heading := headingBelow above }

lemma readLines_cons_of_row {line : String} (h : isRow line.toList) (heading : Option String)
    (rest : List String) :
    (readLines heading (line :: rest)).outcome
      = (readRow line).outcome >>= fun entry =>
          (readLines heading rest).outcome >>= fun entries =>
            .ok ({ entry with heading } :: entries) := by
  simp [readLines, h]

/-- What is read of a row and of the lines below it. -/
lemma exists_of_readLines_cons_of_row {line : String} {heading : Option String}
    {rest : List String} {entries : List Entry} (h : isRow line.toList)
    (hentries : (readLines heading (line :: rest)).outcome = .ok entries) :
    ∃ entry others, (readRow line).outcome = .ok entry
      ∧ (readLines heading rest).outcome = .ok others
      ∧ entries = { entry with heading } :: others := by
  rw [readLines_cons_of_row h] at hentries
  cases hentry : (readRow line).outcome with
  | error e =>
      rw [hentry] at hentries
      cases hentries
  | ok entry =>
      rw [hentry, Logged.ok_bind] at hentries
      cases hothers : (readLines heading rest).outcome with
      | error e =>
          rw [hothers] at hentries
          cases hentries
      | ok others =>
          rw [hothers] at hentries
          cases hentries
          exact ⟨entry, others, rfl, rfl, rfl⟩

lemma readLines_cons_of_not_row {line : String} (h : ¬ isRow line.toList)
    (heading : Option String) (rest : List String) :
    readLines heading (line :: rest) = readLines (heading? line <|> heading) rest := by
  rw [readLines, if_neg h]

/-- The first row whose index is spoiled ends the reading. -/
lemma readLines_of_spoiled {ls : List String} {line : String} {c : Char}
    (h : firstSpoiled? (rowsOf ls) = some (line, c)) (heading : Option String) :
    (readLines heading ls).outcome = .error (.invalidDigit line c) := by
  induction ls generalizing heading with
  | nil => cases h
  | cons first rest ih =>
      by_cases hrow : isRow first.toList
      · rw [rowsOf_cons_of_row hrow] at h
        rw [readLines_cons_of_row hrow]
        cases hstray : stray? first with
        | some d =>
            rw [firstSpoiled?_cons_of_stray hstray] at h
            cases h
            rw [readRow_of_stray hstray]
            rfl
        | none =>
            rw [firstSpoiled?_cons_of_clean hstray] at h
            obtain ⟨entry, hentry⟩ := exists_readRow hstray
            rw [hentry, ih h]
            rfl
      · rw [rowsOf_cons_of_not_row hrow] at h
        rw [readLines_cons_of_not_row hrow]
        exact ih h _

/-- Lines are read row by row below others, if no index is spoiled. -/
lemma exists_readLines {ls : List String} (h : firstSpoiled? (rowsOf ls) = none)
    (above : List String) :
    ∃ entries, (readLines (headingBelow above) ls).outcome = .ok entries
      ∧ List.Forall₂ (fun row entry => IsEntryBelow (above ++ row.1) row.2 entry)
          (rowsWithAbove ls) entries := by
  induction ls generalizing above with
  | nil => exact ⟨[], rfl, List.Forall₂.nil⟩
  | cons line rest ih =>
      have hcontext : ∀ row : List String × String,
          above ++ line :: row.1 = above ++ [line] ++ row.1 := by simp
      by_cases hrow : isRow line.toList
      · rw [rowsOf_cons_of_row hrow] at h
        cases hstray : stray? line with
        | some d =>
            rw [firstSpoiled?_cons_of_stray hstray] at h
            cases h
        | none =>
            rw [firstSpoiled?_cons_of_clean hstray] at h
            obtain ⟨plain, hplain⟩ := exists_readRow hstray
            -- the row itself moves above the lines that are left, where it is no heading
            obtain ⟨entries, hentries, hforall⟩ := ih h (above ++ [line])
            rw [headingBelow_append_of_not_heading (not_isHeading_of_isRow hrow)] at hentries
            refine ⟨{ plain with heading := headingBelow above } :: entries, ?_, ?_⟩
            · rw [readLines_cons_of_row hrow, hplain, Logged.ok_bind, hentries, Logged.ok_bind]
            · rw [rowsWithAbove_cons, if_pos hrow, List.singleton_append]
              refine List.Forall₂.cons ⟨plain, hplain, by simp⟩ ?_
              simpa only [List.forall₂_map_left_iff, hcontext] using hforall
      · rw [rowsOf_cons_of_not_row hrow] at h
        obtain ⟨entries, hentries, hforall⟩ := ih h (above ++ [line])
        refine ⟨entries, ?_, ?_⟩
        · rw [readLines_cons_of_not_row hrow, heading?_orElse_headingBelow hrow]
          exact hentries
        · rw [rowsWithAbove_cons, if_neg hrow, List.nil_append]
          simpa only [List.forall₂_map_left_iff, hcontext] using hforall

/-! ### A whole table -/

lemma outcome_read (text : String) :
    (read text).outcome = (readLines none (lines text)).outcome := by
  simp only [read, Logged.outcome_bind, Logged.outcome_write, Logged.outcome_pure, Logged.ok_bind]
  exact bind_pure _

/-- A table is read row by row, if no index is spoiled. -/
lemma exists_read {text : String} (h : firstSpoiled? (rowsOf (lines text)) = none) :
    ∃ entries, (read text).outcome = .ok entries
      ∧ List.Forall₂ (fun row entry => IsEntryBelow row.1 row.2 entry)
          (rowsWithAbove (lines text)) entries := by
  obtain ⟨entries, hentries, hforall⟩ := exists_readLines h []
  exact ⟨entries, by rw [outcome_read]; exact hentries, by simpa using hforall⟩

/-- The entries of a table are its rows under their headings. -/
lemma forall₂_of_read {text : String} {entries : List Entry}
    (h : (read text).outcome = .ok entries) :
    List.Forall₂ (fun row entry => IsEntryBelow row.1 row.2 entry)
      (rowsWithAbove (lines text)) entries := by
  cases hspoiled : firstSpoiled? (rowsOf (lines text)) with
  | some spoiled =>
      rw [outcome_read, readLines_of_spoiled hspoiled] at h
      cases h
  | none =>
      obtain ⟨entries', hentries', hforall⟩ := exists_read hspoiled
      cases h.symm.trans hentries'
      exact hforall

/-- The rows of the entries of a table are its rows. -/
lemma map_line_of_read {text : String} {entries : List Entry}
    (h : (read text).outcome = .ok entries) :
    entries.map (·.line) = rowsOf (lines text) := by
  rw [← map_snd_rowsWithAbove, ← List.forall₂_eq_eq_eq, List.forall₂_map_left_iff,
    List.forall₂_map_right_iff]
  refine (forall₂_of_read h).flip.imp ?_
  rintro entry row ⟨plain, hplain, rfl⟩
  exact (of_readRow_eq_ok hplain).1

/-- **A table is read row by row.**  If the index of a row is spoiled the first such row ends the
reading, with the first character that spoils it.  If none is, every row is an entry, in the order
of the rows, under the last heading above it. -/
theorem read_rows_below_headings (text : String) :
    (∀ line c, firstSpoiled? (rowsOf (lines text)) = some (line, c) →
        (read text).outcome = .error (.invalidDigit line c))
      ∧ (firstSpoiled? (rowsOf (lines text)) = none →
        ∃ entries, (read text).outcome = .ok entries
          ∧ List.Forall₂ (fun row entry => IsEntryBelow row.1 row.2 entry)
              (rowsWithAbove (lines text)) entries) := by
  refine ⟨fun line c h => ?_, exists_read⟩
  rw [outcome_read, readLines_of_spoiled h]

/-- Rows above and below a heading, with blank lines among them. -/
def headedText : String :=
  "0 0010\n High \n1 0001 (11) => 16\n\n \t\r\n0 0001 => 254"

/-- Rows of which the last two are spoiled. -/
def spoiledText : String :=
  "0 0010\nHigh\n0 1 (05)\n0 002"

theorem read_rows_below_headings_headedText :
    (∃ entries, (read headedText).outcome = .ok entries
        ∧ List.Forall₂ (fun row entry => IsEntryBelow row.1 row.2 entry)
            [([], "0 0010"), (["0 0010", " High "], "1 0001 (11) => 16"),
             (["0 0010", " High ", "1 0001 (11) => 16", "", " \t\r"], "0 0001 => 254")] entries)
      ∧ headingBelow [] = none ∧ headingBelow ["0 0010", " High "] = some "High"
      ∧ headingBelow ["0 0010", " High ", "1 0001 (11) => 16", "", " \t\r"] = some "High"
      ∧ (read spoiledText).outcome = .error (.invalidDigit "0 1 (05)" '(') := by
  have clean : firstSpoiled? (rowsOf (lines headedText)) = none := by decide +kernel
  have rows : rowsWithAbove (lines headedText)
      = [([], "0 0010"), (["0 0010", " High "], "1 0001 (11) => 16"),
         (["0 0010", " High ", "1 0001 (11) => 16", "", " \t\r"], "0 0001 => 254")] := by
    decide +kernel
  have spoiled : firstSpoiled? (rowsOf (lines spoiledText)) = some ("0 1 (05)", '(') := by
    decide +kernel
  refine ⟨?_, by decide +kernel, by decide +kernel, by decide +kernel,
    (read_rows_below_headings spoiledText).1 _ _ spoiled⟩
  rw [← rows]
  exact (read_rows_below_headings headedText).2 clean

end TicksAndWidths.Table
