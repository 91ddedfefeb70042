import Mathlib.Tactic
import TicksAndWidths.Proofs.Table.Parts
import TicksAndWidths.Proofs.Table.Rows

/-!
A carriage return at the end of a line.

* `LeavesReturn`: a reader leaves a return at the end of its text to what follows.  The readers of
  all annotations do (`leavesReturn_hexMark?`, `leavesReturn_ticks?`, `leavesReturn_remark?`), so a
  return states nothing (`ofText_append_return`).
* `isRow_endInReturn` and `heading?_endInReturn`: a line with a return at its end is a row, or sets
  a heading, as it does without.
* `stray?_endInReturn` and `stray?_endInReturn_ne_none`: the index of a row with six characters or
  more is not reached by the return, and that of any other is spoiled.
* `readRow_endInReturn`: **a row with six characters or more is read as the same entry**, but for
  the return itself.
-/

namespace TicksAndWidths.Table

open Text Unicode

/-! ### Annotations -/

/-- A reader leaves a return at the end of its text to what follows. -/
def LeavesReturn {α : Type} (read? : List Char → Option (α × List Char)) : Prop :=
  ∀ text, read? (text ++ ['\r']) = (read? text).map fun read => (read.1, read.2 ++ ['\r'])

lemma leavesReturn_hexMark? : LeavesReturn hexMark? := fun text =>
  takes_hexMark?.append_cons (fun _ => Iff.rfl) fun _ _ _ hmark =>
    absurd (hmark.of_mem (c := '\r') (by simp)) (by decide)

lemma leavesReturn_ticks? : LeavesReturn ticks? := fun text =>
  takes_ticks?.append_cons (endsNumber_append_cons (by decide) · []) fun _ _ _ hticks =>
    absurd (hticks.of_mem (c := '\r') (by simp)) (by decide)

lemma leavesReturn_remark? : LeavesReturn remark? := by
  intro text
  refine takes_remark?.append_cons (fun _ => Iff.rfl) fun words more rest hremark hnil => ?_
  -- a remark ends with its parenthesis, not with the return
  obtain ⟨rfl, -⟩ := List.append_eq_nil_iff.mp hnil.symm
  have hlast := hremark.getLast?
  rw [List.getLast?_concat] at hlast
  cases hlast

/-- A return at the end of a row states nothing. -/
lemma ofText_append_return (text : List Char) :
    Annotations.ofText (text ++ ['\r']) = Annotations.ofText text := by
  simp only [Annotations.ofText, optional_append (leavesReturn_hexMark? _),
    optional_append (leavesReturn_ticks? _), optional_append (leavesReturn_remark? _)]

/-! ### Lines -/

/-- A line with a carriage return at its end. -/
def endInReturn (line : String) : String :=
  line.push '\r'

lemma toList_endInReturn (line : String) : (endInReturn line).toList = line.toList ++ ['\r'] :=
  String.toList_push '\r'

lemma isRow_endInReturn (line : String) :
    isRow (endInReturn line).toList = isRow line.toList := by
  rw [toList_endInReturn]
  cases line.toList <;> rfl

lemma trim_append_return (text : List Char) : trim (text ++ ['\r']) = trim text := by
  have hblank : isBlank '\r' := by decide
  rw [trim, trim, List.dropWhile_append]
  split
  · next hempty => simp [hblank, List.isEmpty_iff.mp hempty]
  · simp [hblank]

lemma heading?_endInReturn (line : String) : heading? (endInReturn line) = heading? line := by
  rw [heading?, heading?, toList_endInReturn, trim_append_return]

/-! ### Rows -/

section Rows

variable {line : String}

/-- The index of a row with six characters or more does not reach to a return at its end. -/
lemma take_endInReturn (h : indexWidth ≤ line.length) :
    (endInReturn line).toList.take indexWidth = line.toList.take indexWidth := by
  rw [toList_endInReturn, List.take_append_of_le_length (by rwa [String.length_toList])]

lemma stray?_endInReturn (h : indexWidth ≤ line.length) :
    stray? (endInReturn line) = stray? line := by
  rw [stray?, stray?, take_endInReturn h]

/-- The index of a shorter row is spoiled by a return at its end, if by nothing before it. -/
lemma stray?_endInReturn_ne_none (h : line.length < indexWidth) :
    stray? (endInReturn line) ≠ none := by
  rw [← String.length_toList] at h
  rw [stray?, Ne, List.find?_eq_none, toList_endInReturn,
    List.take_of_length_le (by rw [List.length_append, List.length_singleton]; omega)]
  intro hclean
  exact hclean '\r' (by simp) (by decide)

lemma readIndex_endInReturn (h : indexWidth ≤ line.length) {index : UInt8}
    (hindex : readIndex line = .ok index) : readIndex (endInReturn line) = .ok index :=
  (readIndex_eq_ok_iff_of_take_eq (take_endInReturn h)).mpr hindex

end Rows

/-- An entry whose row ends in a carriage return. -/
def Entry.endInReturn (entry : Entry) : Entry :=
  { entry with line := Table.endInReturn entry.line }

/-- A row with six characters or more is read as the same entry with a return at its end, but for
the return itself. -/
lemma readRow_endInReturn {line : String} (h : indexWidth ≤ line.length) {entry : Entry}
    (hentry : (readRow line).outcome = .ok entry) :
    (readRow (endInReturn line)).outcome = .ok entry.endInReturn := by
  have hdrop : (endInReturn line).toList.drop indexWidth
      = line.toList.drop indexWidth ++ ['\r'] := by
    rw [toList_endInReturn, List.drop_append_of_le_length (by rwa [String.length_toList])]
  rw [outcome_readRow] at hentry ⊢
  cases hindex : readIndex line with
  | error e =>
      rw [hindex] at hentry
      cases hentry
  | ok index =>
      rw [hindex] at hentry
      cases hentry
      rw [readIndex_endInReturn h hindex, hdrop, ofText_append_return]
      rfl

end TicksAndWidths.Table
