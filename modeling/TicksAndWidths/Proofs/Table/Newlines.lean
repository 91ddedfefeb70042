import Mathlib.Tactic
import TicksAndWidths.Proofs.Table.Returns
import TicksAndWidths.Proofs.Text.Lines

/-!
Texts in which a carriage return stands before every newline.

* `withReturns`: a text with these returns.  `exists_lines_withReturns` says that they stand at the
  ends of its `ended` lines, which are all but the last.
* `readLines_map_endInReturn`: wide rows are read as the same entries with returns at their ends.
* `FailsAt`: the row at which the reading of a text fails, and the character because of which it
  does.  `exists_failsAt` says that every failure is one of these.
* `exists_read_withReturns`, `FailsAt.withReturns` and `read_withReturns_of_short`: what becomes of
  a text that is read, of one that fails, and of one with a short row.
* `read_withReturns`: **returns do no harm exactly if the rows are wide enough.**
-/

namespace TicksAndWidths.Table

open Text

/-! ### Carriage returns -/

/-- A character, with a carriage return before it if it is a newline. -/
def returnBefore (c : Char) : List Char :=
  if c = '\n' then ['\r', '\n'] else [c]

/-- A text with a carriage return before each of its newlines. -/
def withReturns (text : String) : String :=
  String.ofList (text.toList.flatMap returnBefore)

/-- The lines of a text that a newline ends, which are all but the last. -/
def ended (text : String) : List String :=
  (lines text).dropLast

lemma flatMap_returnBefore_of_notMem {line : List Char} (h : '\n' ∉ line) :
    line.flatMap returnBefore = line := by
  induction line with
  | nil => rfl
  | cons c line ih =>
      rw [List.mem_cons, not_or] at h
      rw [List.flatMap_cons, returnBefore, if_neg (Ne.symm h.1), ih h.2, List.singleton_append]

/-- The returns stand at the ends of the lines that a newline ends. -/
lemma flatMap_returnBefore_endedLines {ls : List (List Char)} {last : List Char}
    (h : ∀ line ∈ ls, '\n' ∉ line) (hlast : '\n' ∉ last) :
    (endedLines ls ++ last).flatMap returnBefore
      = endedLines (ls.map (· ++ ['\r'])) ++ last := by
  induction ls with
  | nil => exact flatMap_returnBefore_of_notMem hlast
  | cons line ls ih =>
      obtain ⟨hline, hls⟩ := List.forall_mem_cons.mp h
      rw [List.map_cons, endedLines_cons_append, endedLines_cons_append, List.flatMap_append,
        flatMap_returnBefore_of_notMem hline, List.flatMap_cons, ih hls]
      simp [returnBefore]

/-- The ended lines of a text have the returns at their ends, and the last line has none. -/
lemma exists_lines_withReturns (text : String) :
    ∃ last, lines text = ended text ++ [last]
      ∧ lines (withReturns text) = (ended text).map endInReturn ++ [last] := by
  obtain ⟨ls, last, hls, hlast, htext⟩ := exists_endedLines text.toList
  have hreturn : ∀ line ∈ ls.map (· ++ ['\r']), '\n' ∉ line := by
    simpa using hls
  have hlines : lines text = ls.map String.ofList ++ [String.ofList last] := by
    rw [lines, ← htext, splitOn_endedLines_append hls hlast, List.map_append, List.map_singleton]
  have hended : ended text = ls.map String.ofList := by
    rw [ended, hlines, List.dropLast_concat]
  refine ⟨String.ofList last, by rw [hended, hlines], ?_⟩
  have hpush : String.ofList ∘ (· ++ ['\r']) = endInReturn ∘ String.ofList := by
    funext line
    rw [← String.toList_inj]
    simp [endInReturn]
  rw [lines, withReturns, String.toList_ofList, ← htext, flatMap_returnBefore_endedLines hls hlast,
    splitOn_endedLines_append hreturn hlast, hended, List.map_append, List.map_singleton,
    List.map_map, List.map_map, hpush]

/-! ### Lines below a heading -/

lemma rowsOf_map_endInReturn (ls : List String) :
    rowsOf (ls.map endInReturn) = (rowsOf ls).map endInReturn := by
  rw [rowsOf, rowsOf, List.filter_map]
  congr 1
  exact List.filter_congr fun line _ => isRow_endInReturn line

lemma rowsOf_append (ls ls' : List String) : rowsOf (ls ++ ls') = rowsOf ls ++ rowsOf ls' :=
  List.filter_append ls ls'

/-- The rows that a newline ends get a return, and a row behind the last newline gets none. -/
lemma exists_rows_withReturns (text : String) :
    ∃ others, rowsOf (lines text) = rowsOf (ended text) ++ others
      ∧ rowsOf (lines (withReturns text)) = (rowsOf (ended text)).map endInReturn ++ others := by
  obtain ⟨last, hlines, hreturns⟩ := exists_lines_withReturns text
  refine ⟨rowsOf [last], ?_, ?_⟩
  · rw [hlines, rowsOf_append]
  · rw [hreturns, rowsOf_append, rowsOf_map_endInReturn]

/-- Returns at the ends of lines whose rows have six characters or more show in the entries of these
rows, and nowhere else. -/
lemma readLines_map_endInReturn {ls more : List String} {heading : Option String}
    {entries : List Entry} (h : ∀ row ∈ rowsOf ls, indexWidth ≤ row.length)
    (hentries : (readLines heading (ls ++ more)).outcome = .ok entries) :
    (readLines heading (ls.map endInReturn ++ more)).outcome
      = .ok ((entries.take (rowsOf ls).length).map Entry.endInReturn
          ++ entries.drop (rowsOf ls).length) := by
  induction ls generalizing heading entries with
  | nil => simpa [rowsOf] using hentries
  | cons line ls ih =>
      rw [List.map_cons, List.cons_append]
      rw [List.cons_append] at hentries
      by_cases hrow : isRow line.toList
      · rw [rowsOf_cons_of_row hrow] at h ⊢
        obtain ⟨hwidth, hrows⟩ := List.forall_mem_cons.mp h
        obtain ⟨entry, others, hentry, hothers, rfl⟩ :=
          exists_of_readLines_cons_of_row hrow hentries
        rw [readLines_cons_of_row ((isRow_endInReturn line).trans hrow),
          readRow_endInReturn hwidth hentry, Logged.ok_bind, ih hrows hothers]
        rfl
      · have hrow' : ¬ isRow (endInReturn line).toList := by rwa [isRow_endInReturn]
        rw [rowsOf_cons_of_not_row hrow] at h ⊢
        rw [readLines_cons_of_not_row hrow] at hentries
        rw [readLines_cons_of_not_row hrow', heading?_endInReturn]
        exact ih h hentries

/-! ### A whole text -/

/-- The reading of a text fails at the row of that number, because of that character. -/
structure FailsAt (text : String) (number : ℕ) (line : String) (c : Char) : Prop where
  row : (rowsOf (lines text))[number]? = some line
  stray : stray? line = some c
  clean : ∀ above ∈ (rowsOf (lines text)).take number, stray? above = none
  outcome : (read text).outcome = .error (.invalidDigit line c)

/-- The reading of a text fails at the first row whose index is spoiled. -/
lemma failsAt_of_stray {text line : String} {number : ℕ} {c : Char}
    (hrow : (rowsOf (lines text))[number]? = some line) (hstray : stray? line = some c)
    (hclean : ∀ above ∈ (rowsOf (lines text)).take number, stray? above = none) :
    FailsAt text number line c := by
  have hspoiled : firstSpoiled? (rowsOf (lines text)) = some (line, c) := by
    obtain ⟨hlt, hget⟩ := List.getElem?_eq_some_iff.mp hrow
    refine List.findSome?_eq_some_iff.mpr ⟨(rowsOf (lines text)).take number, line,
      (rowsOf (lines text)).drop (number + 1), ?_, by rw [hstray]; rfl, ?_⟩
    · rw [← hget, ← List.drop_eq_getElem_cons hlt, List.take_append_drop]
    · intro above habove
      rw [hclean above habove]
      rfl
  exact ⟨hrow, hstray, hclean, by rw [outcome_read, readLines_of_spoiled hspoiled]⟩

/-- A text that is not read fails at one of its rows. -/
lemma exists_failsAt {text : String} {e : Error} (h : (read text).outcome = .error e) :
    ∃ number line c, FailsAt text number line c := by
  cases hspoiled : firstSpoiled? (rowsOf (lines text)) with
  | none =>
      obtain ⟨entries, hentries, -⟩ := exists_read hspoiled
      cases h.symm.trans hentries
  | some spoiled =>
      obtain ⟨above, line, below, hrows, hstray, hclean⟩ := List.findSome?_eq_some_iff.mp hspoiled
      obtain ⟨c, hc, -⟩ := Option.map_eq_some_iff.mp hstray
      refine ⟨above.length, line, c, failsAt_of_stray (by simp [hrows]) hc ?_⟩
      rw [hrows, List.take_left]
      exact fun row hrow => Option.map_eq_none_iff.mp (hclean row hrow)

/-- With returns before its newlines, a text fails at the same row, if the rows that a newline ends
have six characters or more. -/
lemma FailsAt.withReturns {text line : String} {number : ℕ} {c : Char}
    (h : FailsAt text number line c)
    (hwidth : ∀ row ∈ rowsOf (ended text), indexWidth ≤ row.length) :
    FailsAt (withReturns text) number
      (if number < (rowsOf (ended text)).length then endInReturn line else line) c := by
  obtain ⟨others, hrows, hrows'⟩ := exists_rows_withReturns text
  have hrow := h.row
  have hclean := h.clean
  rw [hrows, List.getElem?_append] at hrow
  rw [hrows, List.take_append] at hclean
  refine failsAt_of_stray ?_ ?_ ?_
  · rw [hrows', List.getElem?_append, List.length_map, List.getElem?_map]
    split at hrow
    · next hlt => rw [if_pos hlt, if_pos hlt, hrow, Option.map_some]
    · next hge => rw [if_neg hge, if_neg hge, hrow]
  · split at hrow
    · next hlt =>
        rw [if_pos hlt, stray?_endInReturn (hwidth line (List.mem_of_getElem? hrow)), h.stray]
    · next hge => rw [if_neg hge, h.stray]
  · rw [hrows', List.take_append, List.length_map, ← List.map_take]
    intro above habove
    rcases List.mem_append.mp habove with hended | hother
    · obtain ⟨row, hmem, rfl⟩ := List.mem_map.mp hended
      rw [stray?_endInReturn (hwidth row (List.mem_of_mem_take hmem))]
      exact hclean row (List.mem_append_left _ hmem)
    · exact hclean above (List.mem_append_right _ hother)

/-- With returns before its newlines, a text is read as the same entries, if the rows that a newline
ends have six characters or more.  The entries of these rows show the returns. -/
lemma exists_read_withReturns {text : String} {entries : List Entry}
    (h : (read text).outcome = .ok entries)
    (hwidth : ∀ row ∈ rowsOf (ended text), indexWidth ≤ row.length) :
    ∃ before after, entries = before ++ after ∧ before.map (·.line) = rowsOf (ended text)
      ∧ (read (withReturns text)).outcome = .ok (before.map Entry.endInReturn ++ after) := by
  obtain ⟨last, hlines, hreturns⟩ := exists_lines_withReturns text
  refine ⟨entries.take (rowsOf (ended text)).length, entries.drop (rowsOf (ended text)).length,
    (List.take_append_drop _ _).symm, ?_, ?_⟩
  · rw [List.map_take, map_line_of_read h, hlines, rowsOf_append, List.take_left]
  · rw [outcome_read, hlines] at h
    rw [outcome_read, hreturns]
    exact readLines_map_endInReturn hwidth h

/-- With returns before its newlines, a text is not read if a row that a newline ends has fewer than
six characters. -/
lemma read_withReturns_of_short {text row : String} (hrow : row ∈ rowsOf (ended text))
    (hshort : row.length < indexWidth) :
    ∃ line c, (read (withReturns text)).outcome = .error (.invalidDigit line c) := by
  obtain ⟨others, -, hrows⟩ := exists_rows_withReturns text
  cases hspoiled : firstSpoiled? (rowsOf (lines (withReturns text))) with
  | some spoiled =>
      exact ⟨spoiled.1, spoiled.2, by rw [outcome_read, readLines_of_spoiled hspoiled]⟩
  | none =>
      rw [firstSpoiled?, List.findSome?_eq_none_iff, hrows] at hspoiled
      have hclean := hspoiled (endInReturn row) (List.mem_append_left _ (List.mem_map_of_mem hrow))
      exact absurd (Option.map_eq_none_iff.mp hclean) (stray?_endInReturn_ne_none hshort)

/-- **Carriage returns before the newlines do no harm exactly if the rows are wide enough.**  If the
rows that a newline ends have six characters or more, a text with returns is read as the same
entries, with returns at the ends of these rows, or fails at the same row because of the same
character.  If one of them is shorter, a text with returns is not read. -/
theorem read_withReturns (text : String) :
    ((∀ row ∈ rowsOf (ended text), indexWidth ≤ row.length) →
        (∀ entries, (read text).outcome = .ok entries →
          ∃ before after, entries = before ++ after ∧ before.map (·.line) = rowsOf (ended text)
            ∧ (read (withReturns text)).outcome = .ok (before.map Entry.endInReturn ++ after))
        ∧ ∀ e, (read text).outcome = .error e →
          ∃ number line c, FailsAt text number line c
            ∧ FailsAt (withReturns text) number
                (if number < (rowsOf (ended text)).length then endInReturn line else line) c)
      ∧ ((∃ row ∈ rowsOf (ended text), row.length < indexWidth) →
          ∃ line c, (read (withReturns text)).outcome = .error (.invalidDigit line c)) := by
  refine ⟨fun hwidth => ⟨fun entries h => exists_read_withReturns h hwidth, fun e h => ?_⟩, ?_⟩
  · obtain ⟨number, line, c, hfails⟩ := exists_failsAt h
    exact ⟨number, line, c, hfails, hfails.withReturns hwidth⟩
  · rintro ⟨row, hrow, hshort⟩
    exact read_withReturns_of_short hrow hshort

/-- Two rows that a newline ends, and one behind the last newline. -/
def wideText : String :=
  "0 0010 (03) => 7 \n High\t\n1 0001 (Whole) \n0 0011"

theorem read_withReturns_wideText :
    (read (withReturns wideText)).outcome
        = .ok [{ index := 2, line := "0 0010 (03) => 7 \r", hex := some 3, ticks := some 7 },
               { index := 17, line := "1 0001 (Whole) \r", note := some "Whole",
                 heading := some "High" },
               { index := 3, line := "0 0011", heading := some "High" }]
      ∧ FailsAt (withReturns spoiledText) 1 "0 1 (05)\r" '('
      ∧ ∃ line c, (read (withReturns "0 1\n")).outcome = .error (.invalidDigit line c) := by
  refine ⟨?_, ?_, (read_withReturns "0 1\n").2 (by decide +kernel)⟩
  · have entries : (read wideText).outcome
        = .ok ([{ index := 2, line := "0 0010 (03) => 7 ", hex := some 3, ticks := some 7 },
                { index := 17, line := "1 0001 (Whole) ", note := some "Whole",
                  heading := some "High" }]
          ++ [{ index := 3, line := "0 0011", heading := some "High" }]) := by decide +kernel
    have rows : rowsOf (ended wideText) = ["0 0010 (03) => 7 ", "1 0001 (Whole) "] := by
      decide +kernel
    obtain ⟨before, after, hentries, hbefore, hread⟩ :=
      ((read_withReturns wideText).1 (by decide +kernel)).1 _ entries
    have hlen := congrArg List.length hbefore
    rw [rows, List.length_map] at hlen
    obtain ⟨rfl, rfl⟩ := List.append_inj hentries hlen.symm
    rw [hread]
    decide +kernel
  · have fails : (read spoiledText).outcome = .error (.invalidDigit "0 1 (05)" '(') := by
      decide +kernel
    have rows : rowsOf (lines spoiledText) = ["0 0010", "0 1 (05)", "0 002"] := by decide +kernel
    have ended_rows : rowsOf (ended spoiledText) = ["0 0010", "0 1 (05)"] := by decide +kernel
    obtain ⟨number, line, c, hfails, hreturns⟩ :=
      ((read_withReturns spoiledText).1 (by decide +kernel)).2 _ fails
    have hrow := hfails.row
    cases hfails.outcome.symm.trans fails
    have hnumber : number = 1 := by
      rw [rows] at hrow
      rcases number with _ | _ | _ | number
      · exact absurd hrow (by decide)
      · rfl
      · exact absurd hrow (by decide)
      · exact absurd hrow (by simp)
    rw [ended_rows, hnumber, if_pos (by decide)] at hreturns
    exact hreturns

end TicksAndWidths.Table
