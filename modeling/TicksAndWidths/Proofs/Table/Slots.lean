import Mathlib.Tactic
import TicksAndWidths.Log
import TicksAndWidths.Table.LengthTable

/-!
How the slots of the length table are filled from entries.

* `fault?`: what is wrong with an entry that comes after some others.
* `ticksOf`, `filled`: the ticks that some entries state for an index, and the slots that hold them.
* `place_filled` is the step lemma: an entry at which nothing is wrong fills its slot, and any other
  ends the filling with its fault.  `foldlM_place_eq_ok_iff` is the run lemma: the filling succeeds
  on faultless entries alone, and leaves the slots that hold their ticks.
* `Faultless.perm_range`: faultless entries that fill every slot have each of its indices once.
* `ofEntries_eq_missingTicks`: a table is refused for want of ticks only if an entry states none.
* `ofEntries_eq_ok_iff`: **the entries of a length table** are faultless and state ticks for every
  slot.
-/

namespace TicksAndWidths.Table.LengthTable

open Text

/-! ### Faults -/

/-- What is wrong with an entry after some others: its index lies beyond the table, it states no
ticks, or one of the others has its index. -/
def fault? (before : List Entry) (entry : Entry) : Option Error :=
  if lengthTableSize ≤ entry.index.toNat then some (.indexOutOfRange entry.index)
  else if entry.ticks = none then some (.missingTicks entry.line)
  else if entry.index ∈ before.map (·.index) then some (.duplicateIndex entry.index)
  else none

/-- Nothing is wrong with any of some entries. -/
structure Faultless (entries : List Entry) : Prop where
  index_lt : ∀ entry ∈ entries, entry.index.toNat < lengthTableSize
  ticks_ne_none : ∀ entry ∈ entries, entry.ticks ≠ none
  nodup : (entries.map (·.index)).Nodup

lemma faultless_nil : Faultless [] :=
  ⟨by simp, by simp, List.nodup_nil⟩

lemma fault?_eq_none_iff {before : List Entry} {entry : Entry} :
    fault? before entry = none
      ↔ entry.index.toNat < lengthTableSize ∧ entry.ticks ≠ none
        ∧ entry.index ∉ before.map (·.index) := by
  rw [fault?]
  split_ifs <;> simp_all

/-- Entries stay faultless as long as nothing is wrong with the next one. -/
lemma faultless_append_singleton {entries : List Entry} {entry : Entry} :
    Faultless (entries ++ [entry]) ↔ Faultless entries ∧ fault? entries entry = none := by
  rw [fault?_eq_none_iff]
  constructor
  · rintro ⟨hlt, hticks, hnodup⟩
    rw [List.map_append, List.map_singleton, List.nodup_append_comm] at hnodup
    obtain ⟨hnew, hold⟩ := List.nodup_cons.mp hnodup
    exact ⟨⟨fun e he => hlt e (List.mem_append_left _ he),
      fun e he => hticks e (List.mem_append_left _ he), hold⟩,
      hlt entry (by simp), hticks entry (by simp), hnew⟩
  · rintro ⟨⟨hlt, hticks, hnodup⟩, hentryLt, hentryTicks, hnew⟩
    refine ⟨?_, ?_, ?_⟩
    · intro e he
      rcases List.mem_append.mp he with he | he
      · exact hlt e he
      · rwa [List.mem_singleton.mp he]
    · intro e he
      rcases List.mem_append.mp he with he | he
      · exact hticks e he
      · rwa [List.mem_singleton.mp he]
    · rw [List.map_append, List.map_singleton, List.nodup_append_comm]
      exact List.nodup_cons.mpr ⟨hnew, hnodup⟩

/-! ### What the slots hold -/

/-- The ticks that some entries state for an index. -/
def ticksOf (entries : List Entry) (index : ℕ) : Option UInt16 :=
  (entries.find? (·.index.toNat = index)).bind (·.ticks)

/-- The slots before any entry is placed. -/
abbrev emptySlots : Slots :=
  Vector.replicate lengthTableSize none

/-- The slots that hold what some entries state. -/
def filled (entries : List Entry) : Slots :=
  Vector.ofFn fun i => ticksOf entries i

@[simp] lemma getElem_filled (entries : List Entry) {i : ℕ} (h : i < lengthTableSize) :
    (filled entries)[i] = ticksOf entries i := by
  simp [filled]

lemma filled_nil : filled [] = emptySlots := by
  ext i hi
  rw [getElem_filled, Vector.getElem_replicate]
  rfl

/-- Faultless entries state ticks for the indices that they have. -/
lemma Faultless.isSome_ticksOf_iff {entries : List Entry} (h : Faultless entries) (index : UInt8) :
    (ticksOf entries index.toNat).isSome ↔ index ∈ entries.map (·.index) := by
  rw [ticksOf]
  cases hfind : entries.find? (·.index.toNat = index.toNat) with
  | none =>
      rw [List.find?_eq_none] at hfind
      simp only [Option.bind_none, Option.isSome_none, Bool.false_eq_true, false_iff,
        List.mem_map, not_exists, not_and]
      rintro entry hentry rfl
      simpa using hfind entry hentry
  | some entry =>
      have hmem := List.mem_of_find?_eq_some hfind
      have hindex : entry.index = index := by
        simpa [UInt8.toNat_inj] using List.find?_some hfind
      have hticks := Option.isSome_iff_ne_none.mpr (h.ticks_ne_none entry hmem)
      simp only [Option.bind_some, hticks, true_iff]
      exact List.mem_map.mpr ⟨entry, hmem, hindex⟩

/-- Among faultless entries every one is found under its index. -/
lemma Faultless.ticksOf_eq {entries : List Entry} (h : Faultless entries) {entry : Entry}
    (hentry : entry ∈ entries) : ticksOf entries entry.index.toNat = entry.ticks := by
  rw [ticksOf]
  cases hfind : entries.find? (·.index.toNat = entry.index.toNat) with
  | none => simpa using List.find?_eq_none.mp hfind entry hentry
  | some other =>
      have hindex : other.index = entry.index := by
        simpa [UInt8.toNat_inj] using List.find?_some hfind
      have hsame := List.inj_on_of_nodup_map h.nodup (List.mem_of_find?_eq_some hfind) hentry hindex
      rw [Option.bind_some, hsame]

lemma nodup_map_index_iff {entries : List Entry} :
    (entries.map (·.index)).Nodup ↔ (entries.map (·.index.toNat)).Nodup := by
  have hmap : entries.map (·.index.toNat) = (entries.map (·.index)).map UInt8.toNat := by
    rw [List.map_map]
    rfl
  rw [hmap, List.nodup_map_iff fun _ _ => UInt8.toNat_inj.mp]

/-- Faultless entries that state ticks for every slot have the numbers of the slots as their
indices, each of them once. -/
lemma Faultless.perm_range {entries : List Entry} (h : Faultless entries)
    (hfull : ∀ i < lengthTableSize, ticksOf entries i ≠ none) :
    (entries.map (·.index.toNat)).Perm (List.range lengthTableSize) := by
  refine (List.perm_ext_iff_of_nodup (nodup_map_index_iff.mp h.nodup) List.nodup_range).mpr
    fun k => ?_
  rw [List.mem_range, List.mem_map]
  constructor
  · rintro ⟨entry, hentry, rfl⟩
    exact h.index_lt entry hentry
  · intro hk
    obtain ⟨ticks, hticks⟩ := Option.ne_none_iff_exists'.mp (hfull k hk)
    obtain ⟨entry, hfind, -⟩ := Option.bind_eq_some_iff.mp hticks
    exact ⟨entry, List.mem_of_find?_eq_some hfind, by simpa using List.find?_some hfind⟩

/-- Another entry shows under its own index, unless an entry before it has the same. -/
lemma ticksOf_append_singleton {entries : List Entry} {entry : Entry}
    (h : entry.index ∉ entries.map (·.index)) (index : ℕ) :
    ticksOf (entries ++ [entry]) index
      = if entry.index.toNat = index then entry.ticks else ticksOf entries index := by
  rw [ticksOf, List.find?_append]
  split
  · next hindex =>
      have hnone : entries.find? (·.index.toNat = index) = none := by
        rw [List.find?_eq_none]
        intro other hother hsame
        rw [decide_eq_true_eq, ← hindex, UInt8.toNat_inj] at hsame
        exact h (List.mem_map.mpr ⟨other, hother, hsame⟩)
      simp [hnone, hindex]
  · next hindex => simp [hindex, ticksOf]

/-! ### Filling the slots -/

/-- An entry at which nothing is wrong fills its slot, and any other ends the filling. -/
lemma place_filled {entries : List Entry} (h : Faultless entries) (entry : Entry) :
    place (filled entries) entry
      = match fault? entries entry with
        | some e => .error e
        | none => .ok (filled (entries ++ [entry])) := by
  by_cases hlt : entry.index.toNat < lengthTableSize
  · rw [place, dif_pos hlt, fault?, if_neg (by omega)]
    cases hticks : entry.ticks with
    | none => rfl
    | some ticks =>
        simp only [getElem_filled, h.isSome_ticksOf_iff]
        by_cases hmem : entry.index ∈ entries.map (·.index)
        · simp [hmem]
        · have hset : (filled entries).set entry.index.toNat (some ticks)
              = filled (entries ++ [entry]) := by
            ext i hi
            rw [Vector.getElem_set, getElem_filled, getElem_filled, ticksOf_append_singleton hmem,
              hticks]
          simp [hmem, hset]
  · rw [place, dif_neg hlt, fault?, if_pos (by omega)]

lemma place_filled_eq_ok_iff {entries : List Entry} (h : Faultless entries) {entry : Entry}
    {slots : Slots} :
    place (filled entries) entry = .ok slots
      ↔ fault? entries entry = none ∧ slots = filled (entries ++ [entry]) := by
  rw [place_filled h]
  cases fault? entries entry with
  | some e => simp
  | none => simp [eq_comm]

lemma foldlM_place_append_singleton (entries : List Entry) (entry : Entry) :
    (entries ++ [entry]).foldlM place emptySlots
      = entries.foldlM place emptySlots >>= fun slots => place slots entry := by
  rw [List.foldlM_append]
  congr 1
  funext slots
  rw [List.foldlM_cons]
  exact bind_pure _

/-- The filling succeeds on faultless entries alone, and leaves the slots that hold their ticks. -/
lemma foldlM_place_eq_ok_iff {entries : List Entry} {slots : Slots} :
    entries.foldlM place emptySlots = .ok slots
      ↔ Faultless entries ∧ slots = filled entries := by
  -- from the right, since `place_filled` speaks of an entry placed after all others
  induction entries using List.reverseRecOn generalizing slots with
  | nil =>
      rw [filled_nil, List.foldlM_nil]
      exact ⟨fun h => ⟨faultless_nil, (Except.ok.inj h).symm⟩, fun h => congrArg _ h.2.symm⟩
  | append_singleton entries entry ih =>
      rw [foldlM_place_append_singleton, faultless_append_singleton]
      cases hbefore : entries.foldlM place emptySlots with
      | error e =>
          simp only [Logged.error_bind, reduceCtorEq, false_iff]
          rintro ⟨⟨hfaultless, -⟩, -⟩
          cases hbefore.symm.trans (ih.mpr ⟨hfaultless, rfl⟩)
      | ok before =>
          obtain ⟨hfaultless, rfl⟩ := ih.mp hbefore
          rw [Logged.ok_bind, place_filled_eq_ok_iff hfaultless]
          simp [hfaultless]

/-- A table is complete when every slot holds ticks. -/
lemma complete_eq_ok_iff {slots : Slots} {table : LengthTable} :
    complete slots = .ok table
      ↔ ∀ (i : ℕ) (hi : i < lengthTableSize), slots[i] = some table.ticks[i] := by
  have hgap : firstGap? slots = none ↔ ∀ i : Fin lengthTableSize, slots[i] ≠ none := by
    simp [firstGap?, List.find?_eq_none]
  rw [complete]
  cases hfirst : firstGap? slots with
  | some i =>
      simp only [reduceCtorEq, false_iff, not_forall]
      have hnone : slots[i].isNone := by
        simpa using List.find?_some hfirst
      exact ⟨i, i.isLt, by rw [← Fin.getElem_fin, Option.isNone_iff_eq_none.mp hnone]; simp⟩
  | none =>
      have hfull := hgap.mp hfirst
      simp only [Except.ok.injEq]
      constructor
      · rintro rfl i hi
        obtain ⟨ticks, hticks⟩ := Option.ne_none_iff_exists'.mp (hfull ⟨i, hi⟩)
        rw [Fin.getElem_fin] at hticks
        rw [Vector.getElem_map, hticks, Option.getD_some]
      · intro hslots
        cases table with
        | mk ticks =>
            congr 1
            refine Vector.ext fun i hi => ?_
            rw [Vector.getElem_map, hslots i hi, Option.getD_some]

/-! ### Failures -/

/-- An entry is refused for want of ticks only if it states none. -/
lemma place_eq_missingTicks {slots : Slots} {entry : Entry} {line : String}
    (h : place slots entry = .error (.missingTicks line)) :
    entry.line = line ∧ entry.ticks = none := by
  rw [place] at h
  split at h
  · split at h
    · next hticks =>
        cases h
        exact ⟨rfl, hticks⟩
    · split_ifs at h; cases h
  · cases h

/-- The filling ends for want of ticks only at an entry that states none. -/
lemma foldlM_place_eq_missingTicks {entries : List Entry} {slots : Slots} {line : String}
    (h : entries.foldlM place slots = .error (.missingTicks line)) :
    ∃ entry ∈ entries, entry.line = line ∧ entry.ticks = none := by
  induction entries generalizing slots with
  | nil => cases h
  | cons entry entries ih =>
      rw [List.foldlM_cons] at h
      cases hplace : place slots entry with
      | error e =>
          rw [hplace] at h
          cases h
          exact ⟨entry, List.mem_cons_self, place_eq_missingTicks hplace⟩
      | ok next =>
          rw [hplace] at h
          obtain ⟨entry', hmem, hentry'⟩ := ih h
          exact ⟨entry', List.mem_cons_of_mem entry hmem, hentry'⟩

/-- A table is refused for want of ticks only if one of its entries states none. -/
lemma ofEntries_eq_missingTicks {entries : List Entry} {line : String}
    (h : ofEntries entries = .error (.missingTicks line)) :
    ∃ entry ∈ entries, entry.line = line ∧ entry.ticks = none := by
  rw [ofEntries] at h
  cases hslots : entries.foldlM place emptySlots with
  | error e =>
      rw [hslots] at h
      cases h
      exact foldlM_place_eq_missingTicks hslots
  | ok slots =>
      rw [hslots, Logged.ok_bind, complete] at h
      split at h <;> cases h

/-! ### The whole table -/

/-- **The entries of a length table** are faultless and state ticks for every slot. -/
theorem ofEntries_eq_ok_iff {entries : List Entry} {table : LengthTable} :
    ofEntries entries = .ok table
      ↔ Faultless entries
        ∧ ∀ (i : ℕ) (hi : i < lengthTableSize), ticksOf entries i = some table.ticks[i] := by
  rw [ofEntries]
  constructor
  · intro h
    cases hslots : entries.foldlM place emptySlots with
    | error e =>
        rw [hslots] at h
        cases h
    | ok slots =>
        obtain ⟨hfaultless, rfl⟩ := foldlM_place_eq_ok_iff.mp hslots
        rw [hslots, Logged.ok_bind, complete_eq_ok_iff] at h
        exact ⟨hfaultless, by simpa using h⟩
  · rintro ⟨hfaultless, hticks⟩
    rw [foldlM_place_eq_ok_iff.mpr ⟨hfaultless, rfl⟩, Logged.ok_bind, complete_eq_ok_iff]
    simpa using hticks

end TicksAndWidths.Table.LengthTable
