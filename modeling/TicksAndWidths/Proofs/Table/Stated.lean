import Mathlib.Tactic
import TicksAndWidths.Proofs.Table.Parts
import TicksAndWidths.Proofs.Table.Rows

/-!
What a row states beside its index.

* `Annotations.StatedBy`: what a text states, told by its parts.  `ofText_eq_iff` says that this is
  what is read of it.
* `readRow_eq_ok_iff`: an entry is read of a row when the row states its fields.
* `readRow_eq_ok_iff_statedBy`: **nothing is read of a row but what its parts state**, and what they
  state is read.
-/

namespace TicksAndWidths.Table

open Text Unicode

/-! ### Texts -/

/-- What a text states, told by its parts: a mark, a length in ticks and a remark, in this order and
each of them taken if it can be read where it has to stand. -/
def Annotations.StatedBy (stated : Annotations) (text : List Char) : Prop :=
  ∃ mark arrow remark tail words,
    text = mark ++ (arrow ++ (remark ++ tail))
      ∧ IsTaken IsMark EndsClosed stated.hex mark (arrow ++ (remark ++ tail))
      ∧ IsTaken IsTicks EndsNumber stated.ticks arrow (remark ++ tail)
      ∧ IsTaken IsRemark EndsClosed words remark tail
      ∧ stated.note = words.map fun words => String.ofList (trim words)

lemma ofText_eq (text : List Char) :
    Annotations.ofText text =
      { hex := (optional hexMark? text).1
        ticks := (optional ticks? (optional hexMark? text).2).1
        note := (optional remark? (optional ticks? (optional hexMark? text).2).2).1.map
          fun words => String.ofList (trim words) } :=
  rfl

/-- What is read of a text is what its parts state. -/
lemma ofText_eq_iff {text : List Char} {stated : Annotations} :
    Annotations.ofText text = stated ↔ stated.StatedBy text := by
  constructor
  · rintro rfl
    obtain ⟨mark, hmark, htext⟩ := takes_hexMark?.exists_isTaken text
    obtain ⟨arrow, harrow, hafterMark⟩ := takes_ticks?.exists_isTaken (optional hexMark? text).2
    obtain ⟨remark, hremark, hafterTicks⟩ :=
      takes_remark?.exists_isTaken (optional ticks? (optional hexMark? text).2).2
    rw [hafterTicks] at hafterMark harrow
    rw [hafterMark] at htext hmark
    exact ⟨mark, arrow, remark, _, _, htext, hmark, harrow, hremark, rfl⟩
  · rintro ⟨mark, arrow, remark, tail, words, htext, hmark, harrow, hremark, hnote⟩
    have hreadMark := takes_hexMark?.optional_eq_iff.mpr ⟨mark, hmark, htext⟩
    have hreadTicks := takes_ticks?.optional_eq_iff.mpr ⟨arrow, harrow, rfl⟩
    have hreadRemark := takes_remark?.optional_eq_iff.mpr ⟨remark, hremark, rfl⟩
    rw [ofText_eq, hreadMark, hreadTicks, hreadRemark, ← hnote]

/-! ### Rows -/

/-- An entry is read of a row when the row spells its index and states its other fields. -/
lemma readRow_eq_ok_iff {line : String} {entry : Entry} :
    (readRow line).outcome = .ok entry
      ↔ readIndex line = .ok entry.index ∧ entry.line = line ∧ entry.heading = none
        ∧ Annotations.ofText (line.toList.drop indexWidth)
            = { hex := entry.hex, ticks := entry.ticks, note := entry.note } := by
  rw [outcome_readRow]
  constructor
  · intro h
    cases hindex : readIndex line with
    | error e =>
        rw [hindex] at h
        cases h
    | ok index =>
        rw [hindex] at h
        cases h
        exact ⟨rfl, rfl, rfl, rfl⟩
  · rintro ⟨hindex, rfl, hheading, hstated⟩
    rw [hindex, Logged.ok_bind, hstated, ← hheading]

/-- **Nothing is read of a row but what its parts state, and what they state is read.**  The text
behind the index of a row is a mark, a length in ticks, a remark and a tail.  A part is read with
its value, and where none is read the text there does not begin with one.  There is one such
reading. -/
theorem readRow_eq_ok_iff_statedBy (line : String) (entry : Entry) :
    (readRow line).outcome = .ok entry
      ↔ readIndex line = .ok entry.index ∧ entry.line = line ∧ entry.heading = none
        ∧ Annotations.StatedBy { hex := entry.hex, ticks := entry.ticks, note := entry.note }
            (line.toList.drop indexWidth) := by
  rw [readRow_eq_ok_iff, ofText_eq_iff]

/-- A mark that does not fit a byte is a remark, and the arrow behind it is no longer reached. -/
example :
    (readRow "0 0001 (100) => 5").outcome
      = .ok { index := 1, line := "0 0001 (100) => 5", note := some "100" } := by
  decide +kernel

end TicksAndWidths.Table
