import Mathlib.Tactic
import TicksAndWidths.Proofs.Json.Values
import TicksAndWidths.Proofs.Table.Order

/-!
Reading entries back from JSON.

* `Json.Value.keys` and `Json.Value.get?`: the names of the members of an object, and the member of
  a name.
* `Describes`: an object names the index and the row of an entry, names whatever else the entry
  states, and names nothing else.
* `describes_toJson` and `Describes.eq`: the object of an entry describes it, and no other entry.
* `write_json` and `write_json_injective`: entries are written as the array of their objects, and
  other entries make another text.
* `objects_read_back`: **entries are read back from JSON**, as one object each in their order.
-/

namespace TicksAndWidths.Json

/-- The names of the members of an object, in their order. -/
def Value.keys : Value → List String
  | .object members => members.map Prod.fst
  | _ => []

/-- The member of an object that has a name, if there is one. -/
def Value.get? (key : String) : Value → Option Value
  | .object members => members.lookup key
  | _ => none

section Optional

variable {α : Type} (name : String) (toValue : α → Value) (a? : Option α)

/-- A member that is there only if its value is. -/
lemma lookup_toList_map (key : String) :
    List.lookup key (a?.map fun a => (name, toValue a)).toList
      = if key = name then a?.map toValue else none := by
  cases a? with
  | none => simp
  | some a =>
      by_cases h : key = name
      · simp [h]
      · simp [List.lookup_cons, h, beq_eq_false_iff_ne.mpr h]

lemma map_fst_toList_map_sublist :
    ((a?.map fun a => (name, toValue a)).toList.map Prod.fst).Sublist [name] := by
  cases a? <;> simp

end Optional

end TicksAndWidths.Json

namespace TicksAndWidths.Table

open Json

/-! ### One object -/

/-- An object describes an entry: it names the index and the row, and it names the mark, the ticks,
the remark and the heading if the entry states them.  It names nothing else and nothing twice. -/
structure Describes (object : Value) (entry : Entry) : Prop where
  index : object.get? "index" = some (.number entry.index.toNat)
  line : object.get? "line" = some (.text entry.line)
  hex : object.get? "hex" = entry.hex.map fun mark => .number mark.toNat
  ticks : object.get? "ticks" = entry.ticks.map fun ticks => .number ticks.toNat
  note : object.get? "note" = entry.note.map .text
  heading : object.get? "section" = entry.heading.map .text
  keys : object.keys.Sublist ["index", "line", "hex", "ticks", "note", "section"]

lemma get?_toJson (entry : Entry) (key : String) :
    entry.toJson.get? key
      = ([("index", Value.number entry.index.toNat), ("line", .text entry.line)].lookup key).or
        ((if key = "hex" then entry.hex.map fun mark => .number mark.toNat else none).or
          ((if key = "ticks" then entry.ticks.map fun ticks => .number ticks.toNat else none).or
            ((if key = "note" then entry.note.map .text else none).or
              (if key = "section" then entry.heading.map .text else none)))) := by
  simp only [Entry.toJson, Value.get?, List.lookup_append, lookup_toList_map, Option.or_assoc]

/-- The object of an entry describes it. -/
lemma describes_toJson (entry : Entry) : Describes entry.toJson entry where
  index := by simp [get?_toJson]
  line := by simp [get?_toJson, List.lookup_cons]
  hex := by simp [get?_toJson, List.lookup_cons]
  ticks := by simp [get?_toJson, List.lookup_cons]
  note := by simp [get?_toJson, List.lookup_cons]
  heading := by simp [get?_toJson, List.lookup_cons]
  keys := by
    have hhex := map_fst_toList_map_sublist "hex" (fun mark : UInt8 => .number mark.toNat) entry.hex
    have hticks :=
      map_fst_toList_map_sublist "ticks" (fun ticks : UInt16 => .number ticks.toNat) entry.ticks
    have hnote := map_fst_toList_map_sublist "note" .text entry.note
    have hheading := map_fst_toList_map_sublist "section" .text entry.heading
    simp only [Entry.toJson, Value.keys, List.map_append]
    exact ((((List.Sublist.refl _).append hhex).append hticks).append hnote).append hheading

/-- An object describes one entry at most. -/
lemma Describes.eq {object : Value} {entry entry' : Entry} (h : Describes object entry)
    (h' : Describes object entry') : entry = entry' := by
  have htext : Function.Injective Value.text := fun _ _ => Value.text.inj
  have hbyte : Function.Injective fun n : UInt8 => Value.number n.toNat :=
    fun _ _ heq => UInt8.toNat_inj.mp (Value.number.inj heq)
  have hword : Function.Injective fun n : UInt16 => Value.number n.toNat :=
    fun _ _ heq => UInt16.toNat_inj.mp (Value.number.inj heq)
  have hindex := hbyte (Option.some.inj (h.index.symm.trans h'.index))
  have hline := htext (Option.some.inj (h.line.symm.trans h'.line))
  have hhex := Option.map_injective hbyte (h.hex.symm.trans h'.hex)
  have hticks := Option.map_injective hword (h.ticks.symm.trans h'.ticks)
  have hnote := Option.map_injective htext (h.note.symm.trans h'.note)
  have hheading := Option.map_injective htext (h.heading.symm.trans h'.heading)
  cases entry
  cases entry'
  rw [Entry.mk.injEq]
  exact ⟨hindex, hline, hhex, hticks, hnote, hheading⟩

/-- Different entries have different objects. -/
lemma toJson_injective : Function.Injective Entry.toJson := by
  intro entry entry' h
  have hentry := describes_toJson entry
  rw [h] at hentry
  exact hentry.eq (describes_toJson entry')

/-! ### All entries -/

/-- Entries are written as the array of their objects. -/
lemma write_json (entries : List Entry) :
    write entries .json
      = .ok (String.ofList (Value.print 0 (.array (entries.map Entry.toJson)) ++ ['\n'])) := by
  obtain ⟨c, text, htext, -⟩ := exists_print_eq_cons (.array (entries.map Entry.toJson)) 0
  have hne : Value.print 0 (.array (entries.map Entry.toJson)) ≠ [] := by
    rw [htext]
    exact List.cons_ne_nil c text
  rw [write, layOut, Logged.ok_bind, endLine_of_ne_nil hne]
  rfl

/-- The array of the objects is read back from their text. -/
lemma read_print_objects (entries : List Entry) :
    Value.read (Value.print 0 (.array (entries.map Entry.toJson)) ++ ['\n'])
      = some (.array (entries.map Entry.toJson)) :=
  Value.read_print_append _ (by simp [isBlank])

/-- Different entries make different texts. -/
lemma write_json_injective : Function.Injective fun entries => write entries .json := by
  intro entries entries' h
  simp only [write_json, Except.ok.injEq, String.ofList_inj] at h
  have hread := read_print_objects entries
  rw [h, read_print_objects, Option.some.injEq, Value.array.injEq] at hread
  exact (List.map_injective_iff.mpr toJson_injective hread).symm

/-- **Entries are read back from JSON.**  Their text is that of an array with one object for each
entry in their order, and each object describes its entry: it holds what the entry states and
nothing else.  So no other entries have the same text. -/
theorem objects_read_back (entries : List Entry) :
    ∃ out, write entries .json = .ok out
      ∧ (∃ objects, Value.read out.toList = some (.array objects)
          ∧ List.Forall₂ Describes objects entries)
      ∧ ∀ entries', write entries' .json = .ok out ↔ entries' = entries := by
  have hwrite := write_json entries
  refine ⟨_, hwrite, ⟨entries.map Entry.toJson, ?_, ?_⟩, ?_⟩
  · rw [String.toList_ofList]
    exact read_print_objects entries
  · rw [List.forall₂_map_left_iff, List.forall₂_same]
    exact fun entry _ => describes_toJson entry
  · intro entries'
    rw [← hwrite]
    exact write_json_injective.eq_iff

end TicksAndWidths.Table
