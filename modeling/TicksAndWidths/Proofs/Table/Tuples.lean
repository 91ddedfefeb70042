import Mathlib.Tactic
import TicksAndWidths.Proofs.Table.Order
import TicksAndWidths.Proofs.Text.Lines
import TicksAndWidths.Proofs.Text.Literals

/-!
Reading tuples back.

* `readTuple?_tuple`: a tuple is read back as its index and its row.
* `newline_notMem_tuple`: a tuple stands on one line, whatever its row holds.
* `readTuples?`: what the lines of a text are as tuples.
* `shown`: the indices and rows of entries.  `write_tuple_eq_iff` says that the text of the tuples
  shows these and nothing else.
* `tuples_read_back`: **entries are read back from their tuples**, each with its index and its row.
-/

namespace TicksAndWidths.Table

open Text

/-! ### One tuple -/

/-- A tuple is read back as its index and its row. -/
lemma readTuple?_tuple (entry : Entry) :
    readTuple? entry.tuple = some (entry.index.toNat, entry.line) := by
  have hindex : readDecimal? (decimal entry.index.toNat
        ++ ',' :: ' ' :: (quotedLine entry.line ++ [')']))
      = some (entry.index.toNat, ',' :: ' ' :: (quotedLine entry.line ++ [')'])) :=
    readDecimal?_decimal_append _ (by simp)
  have hline : Quoted.decode (quotedLine entry.line ++ [')']) = some (entry.line.toList, [')']) :=
    Quoted.decode_encode_append _ _ _
  simp [Entry.tuple, readTuple?, hindex, hline]

lemma newline_notMem_decimal (n : ℕ) : '\n' ∉ decimal n :=
  fun h => absurd (isDigit_of_mem_decimal h) (by decide)

/-- A tuple stands on one line, whatever its row holds. -/
lemma newline_notMem_tuple (entry : Entry) : '\n' ∉ entry.tuple := by
  have hquoted : '\n' ∉ quotedLine entry.line := Quoted.newline_notMem_encode _ _
  simp [Entry.tuple, newline_notMem_decimal, hquoted]

/-! ### A text of tuples -/

/-- The tuples of a text, one on each of its lines, all of which are ended. -/
def readTuples? (text : String) : Option (List (ℕ × String)) :=
  let pieces := text.toList.splitOn '\n'
  if pieces.getLast? = some [] then pieces.dropLast.mapM readTuple? else none

lemma newline_notMem_of_mem_map_tuple (entries : List Entry) :
    ∀ line ∈ entries.map Entry.tuple, '\n' ∉ line := by
  simp [newline_notMem_tuple]

lemma splitOn_tuples (entries : List Entry) :
    (endedLines (entries.map Entry.tuple)).splitOn '\n' = entries.map Entry.tuple ++ [[]] := by
  have hsplit := splitOn_endedLines_append (newline_notMem_of_mem_map_tuple entries)
    (List.not_mem_nil)
  rwa [List.append_nil] at hsplit

/-- Tuples are read back from their lines. -/
lemma readTuples?_endedLines (entries : List Entry) :
    readTuples? (String.ofList (endedLines (entries.map Entry.tuple)))
      = some (entries.map fun entry => (entry.index.toNat, entry.line)) := by
  have hread : readTuple? ∘ Entry.tuple = fun entry => pure (entry.index.toNat, entry.line) :=
    funext readTuple?_tuple
  rw [readTuples?, String.toList_ofList, splitOn_tuples]
  simp only [List.getLast?_append, List.getLast?_singleton, Option.some_or, if_true,
    List.dropLast_concat, List.mapM_map, hread, List.mapM_pure]
  rfl

lemma write_tuple_eq_endedLines (entries : List Entry) :
    write entries .tuple = .ok (String.ofList (endedLines (entries.map Entry.tuple))) := by
  rw [write_tuple, endedLines, List.flatMap_map]

/-- The index and the row of each entry, which is all that its tuple shows. -/
def shown (entries : List Entry) : List (UInt8 × String) :=
  entries.map fun entry => (entry.index, entry.line)

/-- Tuples make the same text exactly when they show the same. -/
lemma write_tuple_eq_iff {entries entries' : List Entry} :
    write entries .tuple = write entries' .tuple ↔ shown entries = shown entries' := by
  rw [write_tuple_eq_endedLines, write_tuple_eq_endedLines, Except.ok.injEq]
  constructor
  · intro h
    have hread := readTuples?_endedLines entries
    rw [h, readTuples?_endedLines, Option.some.injEq] at hread
    have hinj : Function.Injective (Prod.map UInt8.toNat (id : String → String)) :=
      Function.Injective.prodMap (fun _ _ => UInt8.toNat_inj.mp) Function.injective_id
    refine List.map_injective_iff.mpr hinj ?_
    rw [shown, shown, List.map_map, List.map_map]
    exact hread.symm
  · intro h
    have htuple : ∀ l : List Entry, l.map Entry.tuple
        = (shown l).map fun pair => Entry.tuple { index := pair.1, line := pair.2 } := by
      intro l
      rw [shown, List.map_map]
      rfl
    rw [htuple entries, htuple entries', h]

/-- **Entries are read back from their tuples.**  The text of the tuples has one newline for each
entry, at the end of its tuple.  Split at the newlines, and read piece by piece, it gives the index
and the row of each entry in their order.  So only entries with the same indices and rows have the
same text. -/
theorem tuples_read_back (entries : List Entry) :
    ∃ out, write entries .tuple = .ok out
      ∧ out.toList.count '\n' = entries.length
      ∧ out.toList.splitOn '\n' = entries.map Entry.tuple ++ [[]]
      ∧ readTuples? out = some (entries.map fun entry => (entry.index.toNat, entry.line))
      ∧ ∀ entries', write entries' .tuple = .ok out ↔ shown entries' = shown entries := by
  have hwrite := write_tuple_eq_endedLines entries
  refine ⟨_, hwrite, ?_, ?_, readTuples?_endedLines entries, ?_⟩
  · rw [String.toList_ofList, count_newline_endedLines (newline_notMem_of_mem_map_tuple entries),
      List.length_map]
  · rw [String.toList_ofList, splitOn_tuples]
  · intro entries'
    rw [← hwrite, write_tuple_eq_iff]

example :
    write [{ index := 3, line := "it's\n\\" }, { index := 0, line := "\x07\"'" }] .tuple
      = .ok "(3, \"it's\\n\\\\\")\n(0, '\\x07\"\\'')\n" := by
  decide +kernel

end TicksAndWidths.Table
