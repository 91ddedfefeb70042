import Mathlib.Tactic
import TicksAndWidths.Proofs.Table.Arrangement
import TicksAndWidths.Proofs.Table.Slots
import TicksAndWidths.Proofs.Table.Written

/-!
Arrows that are read, and arrows that are passed over.

A row may say `=> 254` in any place behind its index.  Its ticks are read there only if nothing but
a mark and gaps stand between the index and the arrow.

* `HasArrow`: a text states a length in ticks behind an arrow, wherever it stands.
* `IsClear`: what stands before an arrow lets the arrow be reached.
* `ticks_ofText_of_clear` and `ticks_ofText_of_not_clear`: the ticks of a text are those behind an
  arrow that is reached, and without regard to an arrow that is not.
* `ticks_of_hasArrow`: **an arrow is read exactly if it is reached.**
* `ticks_unread_of_unmarkedRow`: an arrow that is not reached.
-/

namespace TicksAndWidths.Table

open Text

/-- A text has an arrow behind some other text: the arrow, a space, and the ticks in decimal digits
up to another space or to the end. -/
def HasArrow (text before : List Char) (ticks : UInt16) : Prop :=
  ∃ digits after, digits ≠ [] ∧ (∀ c ∈ digits, c.isDigit) ∧ ofDecimal digits = ticks.toNat
    ∧ (∀ c ∈ after.head?, c = ' ') ∧ text = before ++ '=' :: '>' :: ' ' :: (digits ++ after)

/-- Nothing stands before an arrow but a mark, if any, and a gap. -/
def IsClear (before : List Char) : Prop :=
  ∃ hex mark gap, IsWritten IsMark hex mark ∧ (∀ c ∈ gap, isGap c) ∧ before = mark ++ gap

/-! ### Texts with an arrow -/

lemma equals_notMem_gap {gap : List Char} (h : ∀ c ∈ gap, isGap c) : '=' ∉ gap :=
  fun hmem => absurd (h _ hmem) (by decide)

/-- A length in ticks holds no equals sign but that of its arrow, which only a gap precedes. -/
lemma gap_of_isTicks_append_equals {front more : List Char} {ticks : UInt16}
    (h : IsTicks ticks (front ++ '=' :: more)) : ∀ c ∈ front, isGap c := by
  obtain ⟨gap, gap', digits, hgap, hgap', -, hdigits, -, heq⟩ := h
  have hnot : '=' ∉ digits := fun hmem => absurd (hdigits _ hmem) (by decide)
  have htail : '=' ∉ '>' :: (gap' ++ digits) := by
    simp [equals_notMem_gap hgap', hnot]
  obtain ⟨rfl, -⟩ :=
    (List.append_cons_inj_of_notMem (equals_notMem_gap hgap) htail).mp heq.symm
  exact hgap

lemma optional_hexMark?_append_equals (front rest : List Char) :
    optional hexMark? (front ++ '=' :: rest)
      = ((optional hexMark? front).1, (optional hexMark? front).2 ++ '=' :: rest) :=
  optional_append <| takes_hexMark?.append_cons (fun _ => Iff.rfl) fun _ _ _ hmark =>
    absurd (hmark.of_mem (c := '=') (by simp)) (by decide)

/-- What stands before an arrow lets it be reached if only a gap is left behind the mark. -/
lemma isClear_iff {before : List Char} :
    IsClear before ↔ ∀ c ∈ (optional hexMark? before).2, isGap c := by
  constructor
  · rintro ⟨hex, mark, gap, hmark, hgap, rfl⟩
    have hread : optional hexMark? (mark ++ gap) = (hex, gap) := by
      refine takes_hexMark?.optional_eq_iff.mpr ⟨mark, hmark.isTaken trivial ?_, rfl⟩
      -- a mark has a parenthesis behind its gap, and here is nothing
      rintro - value part rest hpart rfl
      obtain ⟨_, -, -, -, hskip⟩ := hpart.skipGap_append rest
      rw [← List.append_nil (part ++ rest), skipGap_gap_append hgap] at hskip
      cases hskip
    rw [hread]
    exact hgap
  · intro hgap
    obtain ⟨mark, hmark, htext⟩ := takes_hexMark?.exists_isTaken before
    exact ⟨_, mark, _, hmark.isWritten, hgap, htext⟩

lemma ticks_ofText (text : List Char) :
    (Annotations.ofText text).ticks = (optional ticks? (optional hexMark? text).2).1 :=
  rfl

/-- An arrow that is reached has its ticks read. -/
lemma ticks_ofText_of_clear {text before : List Char} {ticks : UInt16}
    (h : HasArrow text before ticks) (hclear : IsClear before) :
    (Annotations.ofText text).ticks = some ticks := by
  obtain ⟨digits, after, hne, hdigits, hvalue, hafter, rfl⟩ := h
  have hends : EndsNumber after := by
    intro c hc hdigit
    rw [hafter c hc] at hdigit
    exact absurd hdigit (by decide)
  have hspace : ∀ c ∈ [' '], isGap c := List.all_eq_true.mp rfl
  have hread : ticks? ((optional hexMark? before).2 ++ '=' :: '>' :: ' ' :: (digits ++ after))
      = some (ticks, after) :=
    (takes_ticks? _ _ _).mpr ⟨_, ⟨_, [' '], digits, isClear_iff.mp hclear, hspace, hne, hdigits,
      hvalue, rfl⟩, hends, by simp⟩
  rw [ticks_ofText, optional_hexMark?_append_equals, optional_eq_some_iff.mpr hread]

/-- An arrow that is not reached has no part in the ticks. -/
lemma ticks_ofText_of_not_clear {before : List Char} (h : ¬ IsClear before) (rest : List Char) :
    (Annotations.ofText (before ++ '=' :: rest)).ticks = (Annotations.ofText before).ticks := by
  have hfront : ∀ ticks more, ¬ IsTicks ticks ((optional hexMark? before).2 ++ '=' :: more) :=
    fun ticks more hticks => h (isClear_iff.mpr (gap_of_isTicks_append_equals hticks))
  have hread := takes_ticks?.append_cons (endsNumber_append_cons (by decide) · rest)
    fun ticks more _ hticks => absurd hticks (hfront ticks more)
  rw [ticks_ofText, ticks_ofText, optional_hexMark?_append_equals, optional_append hread]

/-! ### Rows with an arrow -/

/-- **An arrow is read exactly if it is reached.**  If a row states its ticks behind an arrow, and
nothing but a mark and gaps stands before the arrow, these are its ticks.  If anything else stands
there, its ticks are those of the text before the arrow, if it states any.  Only if it states none
are rows refused as a length table for want of ticks in this row. -/
theorem ticks_of_hasArrow {line : String} {entry : Entry} {before : List Char} {ticks : UInt16}
    (hentry : (readRow line).outcome = .ok entry)
    (harrow : HasArrow (line.toList.drop indexWidth) before ticks) :
    (IsClear before → entry.ticks = some ticks)
      ∧ (¬ IsClear before → entry.ticks = (Annotations.ofText before).ticks)
      ∧ ∀ entries, (∀ other ∈ entries, (readRow other.line).outcome = .ok other.bare) →
          LengthTable.ofEntries entries = .error (.missingTicks line) →
          ¬ IsClear before ∧ (Annotations.ofText before).ticks = none := by
  have hticks : (Annotations.ofText (line.toList.drop indexWidth)).ticks = entry.ticks :=
    congrArg Annotations.ticks (readRow_eq_ok_iff.mp hentry).2.2.2
  have hclear : IsClear before → entry.ticks = some ticks := fun h =>
    hticks.symm.trans (ticks_ofText_of_clear harrow h)
  have hcovered : ¬ IsClear before → entry.ticks = (Annotations.ofText before).ticks := by
    obtain ⟨digits, after, -, -, -, -, htext⟩ := harrow
    intro h
    rw [← hticks, htext, ticks_ofText_of_not_clear h]
  refine ⟨hclear, hcovered, fun entries hentries hmissing => ?_⟩
  obtain ⟨other, hother, rfl, hnone⟩ := LengthTable.ofEntries_eq_missingTicks hmissing
  cases hentry.symm.trans (hentries other hother)
  have hnot : ¬ IsClear before := fun h => by
    have hsome := hclear h
    rw [show other.bare.ticks = none from hnone] at hsome
    cases hsome
  exact ⟨hnot, (hcovered hnot).symm.trans hnone⟩

/-- A row with its mark before the arrow and a remark behind it. -/
def markedRow : String :=
  "0 0001 (01)\t=> 254 (Half)"

/-- A row with two arrows, the first of which has no space behind it. -/
def tightRow : String :=
  "0 0001 =>7 => 5"

/-- A row that repeats its index without parentheses. -/
def unmarkedRow : String :=
  "0 0001 01 => 254"

/-- What is read of it. -/
def unmarkedEntry : Entry where
  index := 1
  line := unmarkedRow

lemma hasArrow_unmarkedRow :
    HasArrow (unmarkedRow.toList.drop indexWidth) [' ', '0', '1', ' '] 254 :=
  ⟨['2', '5', '4'], [], by decide, List.all_eq_true.mp rfl, by decide, nofun, by decide +kernel⟩

lemma readRow_unmarkedRow : (readRow unmarkedRow).outcome = .ok unmarkedEntry := by
  decide +kernel

lemma ofEntries_unmarkedEntry :
    LengthTable.ofEntries [unmarkedEntry] = .error (.missingTicks unmarkedRow) := by
  decide +kernel

theorem ticks_of_hasArrow_rows :
    (∃ entry, (readRow markedRow).outcome = .ok entry
        ∧ HasArrow (markedRow.toList.drop indexWidth) " (01)\t".toList 254
        ∧ IsClear " (01)\t".toList ∧ entry.ticks = some 254)
      ∧ (∃ entry, (readRow tightRow).outcome = .ok entry
        ∧ HasArrow (tightRow.toList.drop indexWidth) " =>7 ".toList 5
        ∧ ¬ IsClear " =>7 ".toList ∧ entry.ticks = some 7)
      ∧ ¬ IsClear [' ', '0', '1', ' '] := by
  have clear : IsClear " (01)\t".toList :=
    isClear_iff.mpr (List.all_eq_true.mp (by decide +kernel))
  have covered : ¬ IsClear " =>7 ".toList :=
    isClear_iff.not.mpr (List.all_eq_true.not.mp (by decide +kernel))
  have before : (Annotations.ofText " =>7 ".toList).ticks = some 7 := by decide +kernel
  refine ⟨?_, ?_, ?_⟩
  · have arrow : HasArrow (markedRow.toList.drop indexWidth) " (01)\t".toList 254 :=
      ⟨['2', '5', '4'], " (Half)".toList, by decide, List.all_eq_true.mp rfl, by decide, by simp,
        by decide +kernel⟩
    have clean : stray? markedRow = none := by decide +kernel
    obtain ⟨entry, hentry⟩ := exists_readRow clean
    exact ⟨entry, hentry, arrow, clear, (ticks_of_hasArrow hentry arrow).1 clear⟩
  · have arrow : HasArrow (tightRow.toList.drop indexWidth) " =>7 ".toList 5 :=
      ⟨['5'], [], by decide, List.all_eq_true.mp rfl, by decide, nofun, by decide +kernel⟩
    have clean : stray? tightRow = none := by decide +kernel
    obtain ⟨entry, hentry⟩ := exists_readRow clean
    exact ⟨entry, hentry, arrow, covered,
      ((ticks_of_hasArrow hentry arrow).2.1 covered).trans before⟩
  · have hread : ∀ other ∈ [unmarkedEntry], (readRow other.line).outcome = .ok other.bare :=
      List.forall_mem_singleton.mpr readRow_unmarkedRow
    exact ((ticks_of_hasArrow readRow_unmarkedRow hasArrow_unmarkedRow).2.2 _ hread
      ofEntries_unmarkedEntry).1

/-- A row may state its ticks and be refused for want of them.  Before its first arrow stands a
number that is no mark, so the arrow is not reached, and the length table of this row reports that
the row has no ticks. -/
theorem ticks_unread_of_unmarkedRow :
    isRow unmarkedRow.toList
      ∧ HasArrow (unmarkedRow.toList.drop indexWidth) [' ', '0', '1', ' '] 254
      ∧ (∀ before after,
          unmarkedRow.toList.drop indexWidth = before ++ '=' :: '>' :: ' ' :: after →
            [' ', '0', '1', ' '].length ≤ before.length)
      ∧ (readRow unmarkedRow).outcome = .ok unmarkedEntry ∧ unmarkedEntry.ticks = none
      ∧ (readSorted unmarkedRow).outcome = .ok [unmarkedEntry]
      ∧ LengthTable.ofEntries [unmarkedEntry] = .error (.missingTicks unmarkedRow) := by
  have hsorted : (readSorted unmarkedRow).outcome = .ok [unmarkedEntry] :=
    readSorted_eq_ok_iff.mpr ⟨_, by decide +kernel, List.mergeSort_singleton _⟩
  refine ⟨by decide +kernel, hasArrow_unmarkedRow, fun before after htext => ?_,
    readRow_unmarkedRow, rfl, hsorted, ofEntries_unmarkedEntry⟩
  have hdrop : unmarkedRow.toList.drop indexWidth
      = [' ', '0', '1', ' ', '=', '>', ' ', '2', '5', '4'] := by decide +kernel
  rw [hdrop] at htext
  rcases before with _ | ⟨_, _ | ⟨_, _ | ⟨_, _ | ⟨_, before⟩⟩⟩⟩ <;> simp_all

end TicksAndWidths.Table
