import TicksAndWidths.Table.Entry
import TicksAndWidths.Table.Error
import TicksAndWidths.Text.Numeral

/-!
The length table: the ticks of every index that five binary digits can spell.

It is filled from entries in their order.  Each entry has to fit, to state its ticks and to come
first with its index; when all of them do, every slot has to be filled.
-/

namespace TicksAndWidths.Table

open Text

/-- The number of slots of the length table. -/
def lengthTableSize : Nat := 32

/-- The ticks of each index. -/
structure LengthTable where
  ticks : Vector UInt16 lengthTableSize
deriving DecidableEq, Repr

namespace LengthTable

/-- A length table in the making. -/
abbrev Slots := Vector (Option UInt16) lengthTableSize

/-- Puts the ticks of an entry into its slot. -/
def place (slots : Slots) (entry : Entry) : Except Error Slots :=
  if h : entry.index.toNat < lengthTableSize then
    match entry.ticks with
    | none => .error (.missingTicks entry.line)
    | some ticks =>
      if slots[entry.index.toNat].isSome then .error (.duplicateIndex entry.index)
      else .ok (slots.set entry.index.toNat (some ticks))
  else .error (.indexOutOfRange entry.index)

/-- The first slot that is still empty. -/
def firstGap? (slots : Slots) : Option (Fin lengthTableSize) :=
  (List.finRange lengthTableSize).find? fun i => slots[i].isNone

/-- The table, once no slot is empty. -/
def complete (slots : Slots) : Except Error LengthTable :=
  match firstGap? slots with
  | some i => .error (.missingSlot i)
  | none => .ok ⟨slots.map (·.getD 0)⟩

/-- The length table of some entries. -/
def ofEntries (entries : List Entry) : Except Error LengthTable := do
  complete (← entries.foldlM place (Vector.replicate lengthTableSize none))

/-- The ticks in the order of their index, between brackets. -/
def print (table : LengthTable) : List Char :=
  '[' :: ([',', ' '].intercalate (table.ticks.toList.map fun t => decimal t.toNat) ++ [']'])

end LengthTable

end TicksAndWidths.Table
