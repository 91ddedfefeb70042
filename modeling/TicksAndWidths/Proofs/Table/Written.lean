import Mathlib.Tactic
import TicksAndWidths.Proofs.Table.Stated

/-!
Rows written from what they are to state.

* `WrittenRow`: six characters for the index, then a mark, a length in ticks and a remark, each of
  them written in any of its ways or left out, and any text behind a remark.
* `WrittenRow.IsAmbiguous`: the row has nothing but a remark, and the remark could be a mark.
* `WrittenRow.statedBy`: any other row states what it is written from.
* `WrittenRow.isReadBack_iff`: **a row is read as what it is written from exactly if it is not
  ambiguous.**
-/

namespace TicksAndWidths.Table

open Text Unicode

/-- How an optional part is written: as some part of its kind, or not at all. -/
def IsWritten {α : Type} (IsPart : α → List Char → Prop) : Option α → List Char → Prop
  | some a, part => IsPart a part
  | none, part => part = []

/-- A part is left out, or stands as it is written. -/
lemma IsWritten.none_or_some {α : Type} {IsPart : α → List Char → Prop} {a? : Option α}
    {part : List Char} (h : IsWritten IsPart a? part) :
    (a? = none ∧ part = []) ∨ ∃ a, a? = some a ∧ IsPart a part := by
  cases a? with
  | none => exact Or.inl ⟨rfl, h⟩
  | some a => exact Or.inr ⟨a, rfl, h⟩

/-- A written part is taken, if what follows ends it, or begins with no part of its kind when it is
left out. -/
lemma IsWritten.isTaken {α : Type} {IsPart : α → List Char → Prop} {Ends : List Char → Prop}
    {a? : Option α} {part rest : List Char} (h : IsWritten IsPart a? part) (hends : Ends rest)
    (hnone : a? = none → ∀ a part' rest', IsPart a part' → rest ≠ part' ++ rest') :
    IsTaken IsPart Ends a? part rest := by
  cases a? with
  | some a => exact isTaken_some.mpr ⟨h, hends⟩
  | none => exact isTaken_none.mpr ⟨h, fun a part' rest' hpart _ => hnone rfl a part' rest' hpart⟩

lemma IsTaken.isWritten {α : Type} {IsPart : α → List Char → Prop} {Ends : List Char → Prop}
    {a? : Option α} {part rest : List Char} (h : IsTaken IsPart Ends a? part rest) :
    IsWritten IsPart a? part := by
  cases a? with
  | some a => exact (isTaken_some.mp h).1
  | none => exact (isTaken_none.mp h).1

/-- A row as it is written: six characters that spell the index, the parts that state its other
fields, and further text, which needs a remark before it. -/
structure WrittenRow where
  index : List Char
  hex : Option UInt8
  ticks : Option UInt16
  words : Option (List Char)
  mark : List Char
  arrow : List Char
  remark : List Char
  further : List Char
  length_index : index.length = indexWidth
  index_binary : ∀ c ∈ index, c = '0' ∨ c = '1' ∨ c = ' '
  mark_isWritten : IsWritten IsMark hex mark
  arrow_isWritten : IsWritten IsTicks ticks arrow
  remark_isWritten : IsWritten IsRemark words remark
  further_eq_nil : words = none → further = []

namespace WrittenRow

variable (row : WrittenRow)

/-- What stands behind the index. -/
def parts : List Char :=
  row.mark ++ (row.arrow ++ (row.remark ++ row.further))

/-- The whole row. -/
def line : String :=
  String.ofList (row.index ++ row.parts)

/-- The remark, trimmed. -/
def note : Option String :=
  row.words.map fun words => String.ofList (trim words)

/-- A row that has a remark and nothing before it, and the remark could be a mark. -/
def IsAmbiguous : Prop :=
  row.hex = none ∧ row.ticks = none
    ∧ ∃ words, row.words = some words ∧ (∀ c ∈ words, isHexDigit c) ∧ ofHex words < 256

/-- A row is read as what it is written from. -/
def IsReadBack : Prop :=
  ∃ index : UInt8, index.toNat = Nat.ofDigitChars 2 (row.index.filter (· ≠ ' ')) 0
    ∧ (readRow row.line).outcome
      = .ok { index, line := row.line, hex := row.hex, ticks := row.ticks, note := row.note }

/-! ### The index -/

lemma take_line : row.line.toList.take indexWidth = row.index := by
  rw [line, String.toList_ofList, ← row.length_index, List.take_left]

lemma drop_line : row.line.toList.drop indexWidth = row.parts := by
  rw [line, String.toList_ofList, ← row.length_index, List.drop_left]

/-- The index of a written row is the number that its digits spell. -/
lemma exists_readIndex :
    ∃ index, readIndex row.line = .ok index
      ∧ index.toNat = Nat.ofDigitChars 2 (row.index.filter (· ≠ ' ')) 0 := by
  have hclean : stray? row.line = none := by
    rw [stray?, take_line, List.find?_eq_none]
    intro c hc
    rcases row.index_binary c hc with rfl | rfl | rfl <;> decide
  obtain ⟨index, hindex, hvalue, -⟩ := readIndex_of_clean hclean
  rw [indexDigits, take_line] at hvalue
  exact ⟨index, hindex, hvalue⟩

/-! ### The parts -/

/-- Where no remark is written, the row is at its end. -/
lemma remark_eq_nil_or : row.words = none ∧ row.remark ++ row.further = []
    ∨ ∃ words, row.words = some words ∧ IsRemark words row.remark := by
  refine row.remark_isWritten.none_or_some.imp_left ?_
  rintro ⟨hwords, hremark⟩
  exact ⟨hwords, by rw [hremark, row.further_eq_nil hwords, List.nil_append]⟩

/-- Nothing that follows a length in ticks begins with a digit. -/
lemma endsNumber_remark : EndsNumber (row.remark ++ row.further) := by
  rcases row.remark_eq_nil_or with ⟨-, hnil⟩ | ⟨words, -, gap, hgap, -, -, hwritten⟩
  · rw [hnil]
    exact nofun
  · rw [hwritten]
    intro c hc hdigit
    cases gap with
    | nil =>
        cases hc
        exact absurd hdigit (by decide)
    | cons d gap =>
        cases hc
        exact not_isGap_of_isDigit hdigit (hgap c List.mem_cons_self)

/-- What follows the place of a length in ticks is not taken for one. -/
lemma remark_ne_ticks (ticks : UInt16) (part rest : List Char) (hpart : IsTicks ticks part) :
    row.remark ++ row.further ≠ part ++ rest := by
  intro heq
  obtain ⟨_, _, -, -, -, -, hticks⟩ := hpart.skipGap_append rest
  rw [← heq] at hticks
  rcases row.remark_eq_nil_or with ⟨-, hnil⟩ | ⟨words, -, hremark⟩
  · rw [hnil] at hticks
    cases hticks
  · cases (hremark.skipGap_append row.further).2.2.symm.trans hticks

/-- What follows the place of a mark is not taken for one, unless the row is ambiguous. -/
lemma arrow_ne_mark (h : ¬ row.IsAmbiguous) (hhex : row.hex = none) (mark : UInt8)
    (part rest : List Char) (hpart : IsMark mark part) :
    row.arrow ++ (row.remark ++ row.further) ≠ part ++ rest := by
  intro heq
  obtain ⟨digits, hne, hdigits, hvalue, hmark⟩ := hpart.skipGap_append rest
  rw [← heq] at hmark
  rcases row.arrow_isWritten.none_or_some with ⟨hticks, hnil⟩ | ⟨ticks, -, harrow⟩
  · rw [hnil, List.nil_append] at hmark
    rcases row.remark_eq_nil_or with ⟨-, hnil⟩ | ⟨words, hwords, hremark⟩
    · rw [hnil] at hmark
      cases hmark
    · obtain ⟨-, hclose, hskip⟩ := hremark.skipGap_append row.further
      have hclose' : ')' ∉ digits := fun hmem => absurd (hdigits _ hmem) (by decide)
      -- the first parenthesis closes the remark, and the mark as well
      have hsame := congrArg (List.takeWhile (· ≠ ')'))
        (List.cons.inj (hskip.symm.trans hmark)).2
      rw [(span_ne_append hclose _).1, (span_ne_append hclose' _).1] at hsame
      subst hsame
      exact h ⟨hhex, hticks, words, hwords, hdigits, hvalue ▸ mark.toNat_lt⟩
  · obtain ⟨_, _, -, -, -, -, hskip⟩ := harrow.skipGap_append (row.remark ++ row.further)
    cases hskip.symm.trans hmark

/-- What follows the place of a remark is nothing, if no remark is written. -/
lemma further_ne_remark (hwords : row.words = none) (words part rest : List Char)
    (hpart : IsRemark words part) : row.further ≠ part ++ rest := by
  intro heq
  have hskip := (hpart.skipGap_append rest).2.2
  rw [← heq, row.further_eq_nil hwords] at hskip
  cases hskip

/-- A row that is not ambiguous states what it is written from. -/
lemma statedBy (h : ¬ row.IsAmbiguous) :
    Annotations.StatedBy { hex := row.hex, ticks := row.ticks, note := row.note } row.parts :=
  ⟨row.mark, row.arrow, row.remark, row.further, row.words, rfl,
    row.mark_isWritten.isTaken trivial (row.arrow_ne_mark h),
    row.arrow_isWritten.isTaken row.endsNumber_remark fun _ => row.remark_ne_ticks,
    row.remark_isWritten.isTaken trivial row.further_ne_remark, rfl⟩

variable {row}

/-- The remark of an ambiguous row is read as a mark. -/
lemma IsAmbiguous.hex_ne_none (h : row.IsAmbiguous) :
    (Annotations.ofText row.parts).hex ≠ none := by
  obtain ⟨hhex, hticks, words, hwords, hdigits, hlt⟩ := h
  have hmark := row.mark_isWritten
  have harrow := row.arrow_isWritten
  have hremark := row.remark_isWritten
  rw [hhex] at hmark
  rw [hticks] at harrow
  rw [hwords] at hremark
  obtain ⟨gap, hgap, hne, -, hwritten⟩ := hremark
  have hisMark : IsMark (UInt8.ofNat (ofHex words)) row.remark :=
    ⟨gap, words, hgap, hne, hdigits, (UInt8.toNat_ofNat_of_lt' hlt).symm, hwritten⟩
  have hread : hexMark? row.parts = some (UInt8.ofNat (ofHex words), row.further) :=
    (takes_hexMark? _ _ _).mpr
      ⟨row.remark, hisMark, trivial, by rw [parts, hmark, harrow, List.nil_append, List.nil_append]⟩
  rw [ofText_eq, optional_eq_some_iff.mpr hread]
  exact nofun

/-- **A row is read as what it is written from exactly if it is not ambiguous.**  Its index is the
number that its digits spell in base two, and each of its parts is read with its value, or not at
all if it is left out. -/
theorem isReadBack_iff (row : WrittenRow) : row.IsReadBack ↔ ¬ row.IsAmbiguous := by
  constructor
  · rintro ⟨index, -, hread⟩ hambiguous
    have hstated := (readRow_eq_ok_iff.mp hread).2.2.2
    rw [drop_line] at hstated
    have hhex := congrArg Annotations.hex hstated
    exact hambiguous.hex_ne_none (hhex.trans hambiguous.1)
  · intro hclear
    obtain ⟨index, hindex, hvalue⟩ := row.exists_readIndex
    refine ⟨index, hvalue, readRow_eq_ok_iff.mpr ⟨hindex, rfl, rfl, ?_⟩⟩
    rw [drop_line]
    exact ofText_eq_iff.mpr (row.statedBy hclear)

/-- A row with all of its parts, and more text behind them. -/
def crowded : WrittenRow where
  index := ['0', ' ', '0', ' ', '1', '0']
  hex := some 31
  ticks := some 254
  words := some [' ', 'a', ' ', '(', 'b', ' ']
  mark := ['\t', ' ', '(', '0', '0', '1', 'f', ')']
  arrow := ['=', '>', '\t', '0', '2', '5', '4']
  remark := [' ', '(', ' ', 'a', ' ', '(', 'b', ' ', ')']
  further := [')', '=', '>', '7']
  length_index := rfl
  index_binary := by simp
  mark_isWritten := ⟨['\t', ' '], ['0', '0', '1', 'f'], List.all_eq_true.mp rfl, by decide,
    List.all_eq_true.mp rfl, by decide, rfl⟩
  arrow_isWritten := ⟨[], ['\t'], ['0', '2', '5', '4'], List.all_eq_true.mp rfl,
    List.all_eq_true.mp rfl, by decide, List.all_eq_true.mp rfl, by decide, rfl⟩
  remark_isWritten := ⟨[' '], List.all_eq_true.mp rfl, by decide⟩
  further_eq_nil := nofun

/-- A row with nothing but a remark, which could be a mark. -/
def lone : WrittenRow where
  index := ['1', '1', '1', '1', '1', '1']
  hex := none
  ticks := none
  words := some ['F', 'F']
  mark := []
  arrow := []
  remark := ['(', 'F', 'F', ')']
  further := []
  length_index := rfl
  index_binary := by simp
  mark_isWritten := rfl
  arrow_isWritten := rfl
  remark_isWritten := ⟨[], List.all_eq_true.mp rfl, by decide⟩
  further_eq_nil := nofun

theorem isReadBack_iff_crowded_lone :
    crowded.line = "0 0 10\t (001f)=>\t0254 ( a (b ))=>7"
      ∧ (readRow "0 0 10\t (001f)=>\t0254 ( a (b ))=>7").outcome
        = .ok { index := 2, line := "0 0 10\t (001f)=>\t0254 ( a (b ))=>7", hex := some 31,
                ticks := some 254, note := some "a (b" }
      ∧ ¬ lone.IsReadBack := by
  have text : crowded.line = "0 0 10\t (001f)=>\t0254 ( a (b ))=>7" := by decide +kernel
  obtain ⟨index, hindex, hread⟩ := (isReadBack_iff crowded).mpr (by rintro ⟨h, -⟩; cases h)
  have two : index = 2 := UInt8.toNat_inj.mp (hindex.trans (by decide +kernel))
  have note : crowded.note = some "a (b" := by decide +kernel
  have ambiguous : lone.IsAmbiguous := ⟨rfl, rfl, _, rfl, List.all_eq_true.mp rfl, by decide⟩
  refine ⟨text, ?_, fun h => (isReadBack_iff lone).mp h ambiguous⟩
  rw [text, two, note] at hread
  exact hread

end WrittenRow

end TicksAndWidths.Table
