/-!
Entries of a duration table, and their order.

An entry is one row: the index that its leading binary digits spell, the row itself, and whatever
the row states beside its index.  Sorting goes by index and keeps the order of equal indices.
-/

namespace TicksAndWidths.Table

/-- One row of a duration table. -/
structure Entry where
  /-- The value of the leading binary digits. -/
  index : UInt8
  /-- The whole row. -/
  line : String
  /-- The index as the row repeats it in hexadecimal. -/
  hex : Option UInt8 := none
  /-- The length in ticks. -/
  ticks : Option UInt16 := none
  /-- The remark at the end of the row, trimmed. -/
  note : Option String := none
  /-- The heading above the row, trimmed. -/
  heading : Option String := none
deriving DecidableEq, Repr

namespace Entry

/-- Whether the first entry may stand before the second. -/
def precedes (a b : Entry) : Bool :=
  a.index ≤ b.index

/-- Sorts entries by index; entries of equal index keep their order. -/
def sort (entries : List Entry) : List Entry :=
  entries.mergeSort precedes

theorem sort_perm (entries : List Entry) : (sort entries).Perm entries :=
  List.mergeSort_perm entries precedes

theorem precedes_trans (a b c : Entry) (h₁ : a.precedes b) (h₂ : b.precedes c) :
    a.precedes c := by
  simp only [precedes, decide_eq_true_eq, UInt8.le_iff_toNat_le] at *
  omega

theorem precedes_total (a b : Entry) : a.precedes b || b.precedes a := by
  simp only [precedes, Bool.or_eq_true, decide_eq_true_eq, UInt8.le_iff_toNat_le]
  omega

/-- A sorted list ascends by index. -/
theorem pairwise_sort (entries : List Entry) :
    (sort entries).Pairwise (fun a b => a.precedes b) :=
  List.pairwise_mergeSort precedes_trans precedes_total entries

/-- Entries that are in order already stay as they are. -/
theorem sort_eq_self {entries : List Entry} (h : entries.Pairwise (fun a b => a.precedes b)) :
    sort entries = entries :=
  List.mergeSort_of_pairwise h

end Entry

end TicksAndWidths.Table
