import Mathlib.Tactic
import TicksAndWidths.Proofs.Table.Slots

/-!
What becomes of entries that are to make a length table.

* `faultAt?`, `faulty`, `gaps`: what is wrong with the entry at a position, the positions at which
  something is wrong, and the indices of the table that no entry has.
* `faulty_eq_empty_iff`: nothing is wrong at any position of faultless entries.
* `ofEntries_of_isLeast_faulty`: the first entry at fault ends the filling, whatever comes after it.
* `Faultless.ofEntries_of_isLeast_gaps`: faultless entries are refused for their least gap.
* `ofEntries_eq_ok_iff_filter`: a table has one entry for each of its slots.
* `ofEntries_eq_error_iff`, `ofEntries_eq_missingSlot_iff`, `exists_ofEntries_iff`: when entries are
  refused, and for what, and when they make a table.
* `outcome_ofEntries`: **the outcome for any entries**: the first fault, or else the least gap, or
  else the table.
-/

namespace TicksAndWidths.Table.LengthTable

/-! ### Faults by position -/

/-- What is wrong with the entry at a position, after the entries before it. -/
def faultAt? (entries : List Entry) (k : ℕ) : Option Error :=
  entries[k]?.bind (fault? (entries.take k))

/-- The positions of the entries at which something is wrong. -/
def faulty (entries : List Entry) : Set ℕ :=
  {k | (faultAt? entries k).isSome}

/-- The indices of the length table that no entry has. -/
def gaps (entries : List Entry) : Set ℕ :=
  {i | i < lengthTableSize ∧ ∀ entry ∈ entries, entry.index.toNat ≠ i}

lemma mem_faulty {entries : List Entry} {k : ℕ} :
    k ∈ faulty entries ↔ (faultAt? entries k).isSome := Iff.rfl

lemma mem_gaps {entries : List Entry} {i : ℕ} :
    i ∈ gaps entries ↔ i < lengthTableSize ∧ ∀ entry ∈ entries, entry.index.toNat ≠ i := Iff.rfl

lemma faultAt?_of_lt {entries : List Entry} {k : ℕ} (hk : k < entries.length) :
    faultAt? entries k = fault? (entries.take k) entries[k] := by
  rw [faultAt?, List.getElem?_eq_getElem hk, Option.bind_some]

lemma lt_length_of_mem_faulty {entries : List Entry} {k : ℕ} (h : k ∈ faulty entries) :
    k < entries.length := by
  by_contra hle
  rw [mem_faulty, faultAt?, List.getElem?_eq_none (by omega)] at h
  cases h

/-- No entry is at fault for what the whole list lacks. -/
lemma faultAt?_ne_missingSlot (entries : List Entry) (k i : ℕ) :
    faultAt? entries k ≠ some (.missingSlot i) := by
  intro h
  obtain ⟨entry, -, hfault⟩ := Option.bind_eq_some_iff.mp h
  rw [fault?] at hfault
  split_ifs at hfault <;> cases hfault

/-- Entries are faultless up to a position when nothing is wrong before it. -/
lemma faultless_take_iff {entries : List Entry} {k : ℕ} (hk : k ≤ entries.length) :
    Faultless (entries.take k) ↔ ∀ j < k, j ∉ faulty entries := by
  induction k with
  | zero => simp [faultless_nil]
  | succ k ih =>
      have hlt : k < entries.length := hk
      rw [List.take_succ_eq_append_getElem hlt, faultless_append_singleton, ih hlt.le,
        Nat.forall_lt_succ_right, ← faultAt?_of_lt hlt, mem_faulty, Option.not_isSome_iff_eq_none]

/-- Nothing is wrong at any position of faultless entries. -/
lemma faulty_eq_empty_iff {entries : List Entry} : faulty entries = ∅ ↔ Faultless entries := by
  have hall := faultless_take_iff (le_refl entries.length)
  rw [List.take_length] at hall
  rw [hall, Set.eq_empty_iff_forall_notMem]
  exact ⟨fun h j _ => h j, fun h j hj => h j (lt_length_of_mem_faulty hj) hj⟩

/-! ### The first fault -/

/-- The first faulty entry ends the filling, whatever comes after it. -/
lemma ofEntries_of_isLeast_faulty {entries : List Entry} {k : ℕ} {e : Error}
    (hfirst : IsLeast (faulty entries) k) (he : faultAt? entries k = some e) :
    ofEntries entries = .error e := by
  have hk := lt_length_of_mem_faulty hfirst.1
  have hbefore : Faultless (entries.take k) :=
    (faultless_take_iff hk.le).mpr fun j hj hfaulty => by
      have hle := hfirst.2 hfaulty
      omega
  have hplace : place (filled (entries.take k)) entries[k] = .error e := by
    rw [place_filled hbefore, ← faultAt?_of_lt hk, he]
  have hsplit : entries = entries.take k ++ entries[k] :: entries.drop (k + 1) := by simp
  have hfill : entries.foldlM place emptySlots = .error e := by
    rw [hsplit, List.foldlM_append, foldlM_place_eq_ok_iff.mpr ⟨hbefore, rfl⟩, Logged.ok_bind,
      List.foldlM_cons, hplace, Logged.error_bind]
  rw [ofEntries, hfill, Logged.error_bind]

/-! ### The least gap -/

/-- Faultless entries state no ticks for an index exactly when none of them has it. -/
lemma Faultless.ticksOf_eq_none_iff {entries : List Entry} (h : Faultless entries) {i : ℕ} :
    ticksOf entries i = none ↔ ∀ entry ∈ entries, entry.index.toNat ≠ i := by
  constructor
  · rintro hnone entry hentry rfl
    rw [h.ticksOf_eq hentry] at hnone
    exact h.ticks_ne_none entry hentry hnone
  · intro hne
    have hfind : entries.find? (·.index.toNat = i) = none := by simpa using hne
    rw [ticksOf, hfind, Option.bind_none]

/-- Faultless entries leave a slot empty exactly at a gap. -/
lemma Faultless.mem_gaps_iff {entries : List Entry} (h : Faultless entries) {i : ℕ} :
    i ∈ gaps entries ↔ i < lengthTableSize ∧ ticksOf entries i = none := by
  rw [mem_gaps, h.ticksOf_eq_none_iff]

/-- The first gap of filled slots is the least index for which no ticks are stated. -/
lemma firstGap?_filled_eq_some_iff {entries : List Entry} {i : Fin lengthTableSize} :
    firstGap? (filled entries) = some i
      ↔ ticksOf entries i = none ∧ ∀ j < i, ticksOf entries j ≠ none := by
  simp only [firstGap?, List.find?_eq_some_iff_getElem, Fin.getElem_fin, getElem_filled,
    Option.isNone_iff_eq_none, List.getElem_finRange, Bool.not_eq_true',
    Option.isNone_eq_false_iff, Option.isSome_iff_ne_none]
  refine and_congr_right fun _ => ?_
  constructor
  · rintro ⟨k, hk, rfl, hbefore⟩ j hj
    exact hbefore j hj
  · intro hbefore
    exact ⟨i, by simp, rfl, fun j hj => hbefore ⟨j, hj.trans i.isLt⟩ hj⟩

/-- Faultless entries are refused for their least gap. -/
lemma Faultless.ofEntries_of_isLeast_gaps {entries : List Entry} (h : Faultless entries) {i : ℕ}
    (hleast : IsLeast (gaps entries) i) : ofEntries entries = .error (.missingSlot i) := by
  obtain ⟨hlt, hempty⟩ := h.mem_gaps_iff.mp hleast.1
  have hgap : firstGap? (filled entries) = some ⟨i, hlt⟩ := by
    refine firstGap?_filled_eq_some_iff.mpr ⟨hempty, fun j hj hnone => ?_⟩
    exact absurd (hleast.2 (h.mem_gaps_iff.mpr ⟨j.isLt, hnone⟩)) (not_le.mpr hj)
  rw [ofEntries, foldlM_place_eq_ok_iff.mpr ⟨h, rfl⟩, Logged.ok_bind, complete, hgap]

/-! ### Tables -/

/-- Faultless entries without a gap make a table. -/
lemma Faultless.exists_ofEntries {entries : List Entry} (h : Faultless entries)
    (hgaps : gaps entries = ∅) : ∃ table, ofEntries entries = .ok table := by
  have hfull : ∀ i : Fin lengthTableSize, ∃ ticks, ticksOf entries i = some ticks := by
    intro i
    rw [← Option.ne_none_iff_exists']
    intro hnone
    exact Set.eq_empty_iff_forall_notMem.mp hgaps i (h.mem_gaps_iff.mpr ⟨i.isLt, hnone⟩)
  choose ticks hticks using hfull
  exact ⟨⟨Vector.ofFn ticks⟩, ofEntries_eq_ok_iff.mpr
    ⟨h, fun i hi => by simpa using hticks ⟨i, hi⟩⟩⟩

/-- Of faultless entries no other has the index of one. -/
lemma Faultless.filter_eq {entries : List Entry} (h : Faultless entries) {entry : Entry}
    (hentry : entry ∈ entries) :
    entries.filter (·.index.toNat = entry.index.toNat) = [entry] := by
  rw [← List.perm_singleton,
    List.perm_ext_iff_of_nodup (h.nodup.of_map.filter _) (List.nodup_singleton entry)]
  intro other
  simp only [List.mem_filter, decide_eq_true_eq, List.mem_singleton, UInt8.toNat_inj]
  constructor
  · rintro ⟨hother, hindex⟩
    exact List.inj_on_of_nodup_map h.nodup hother hentry hindex
  · rintro rfl
    exact ⟨hentry, rfl⟩

/-- Entries make a table when nothing is wrong with any of them and each slot has one entry, whose
ticks it holds. -/
lemma ofEntries_eq_ok_iff_filter {entries : List Entry} {table : LengthTable} :
    ofEntries entries = .ok table
      ↔ Faultless entries ∧ entries.length = lengthTableSize
        ∧ ∀ (i : ℕ) (hi : i < lengthTableSize), ∃ entry,
          entries.filter (·.index.toNat = i) = [entry] ∧ entry.ticks = some table.ticks[i] := by
  rw [ofEntries_eq_ok_iff]
  refine and_congr_right fun h => ?_
  constructor
  · intro hticks
    have hperm := h.perm_range fun i hi => by simp [hticks i hi]
    refine ⟨by simpa using hperm.length_eq, fun i hi => ?_⟩
    obtain ⟨entry, hentry, rfl⟩ := List.mem_map.mp (hperm.mem_iff.mpr (List.mem_range.mpr hi))
    exact ⟨entry, h.filter_eq hentry, by rw [← h.ticksOf_eq hentry, hticks]⟩
  · rintro ⟨-, hslots⟩ i hi
    obtain ⟨entry, hfilter, hticks⟩ := hslots i hi
    have hmem : entry ∈ entries.filter (·.index.toNat = i) := by simp [hfilter]
    obtain ⟨hentry, hindex⟩ := List.mem_filter.mp hmem
    rw [decide_eq_true_eq] at hindex
    subst hindex
    rw [h.ticksOf_eq hentry, hticks]

/-! ### The outcome -/

/-- A set of numbers is empty or has a least one. -/
lemma eq_empty_or_exists_isLeast (s : Set ℕ) : s = ∅ ∨ ∃ k, IsLeast s k :=
  s.eq_empty_or_nonempty.imp_right fun h => ⟨_, isLeast_csInf h⟩

/-- Entries have a first fault, or a least gap, or make a table. -/
lemma ofEntries_cases (entries : List Entry) :
    (∃ k e, IsLeast (faulty entries) k ∧ faultAt? entries k = some e
        ∧ ofEntries entries = .error e)
      ∨ (faulty entries = ∅ ∧ ∃ i, IsLeast (gaps entries) i
        ∧ ofEntries entries = .error (.missingSlot i))
      ∨ (faulty entries = ∅ ∧ gaps entries = ∅ ∧ ∃ table, ofEntries entries = .ok table) := by
  rcases eq_empty_or_exists_isLeast (faulty entries) with hnone | ⟨k, hk⟩
  · have h := faulty_eq_empty_iff.mp hnone
    rcases eq_empty_or_exists_isLeast (gaps entries) with hgaps | ⟨i, hi⟩
    · exact .inr (.inr ⟨hnone, hgaps, h.exists_ofEntries hgaps⟩)
    · exact .inr (.inl ⟨hnone, i, hi, h.ofEntries_of_isLeast_gaps hi⟩)
  · obtain ⟨e, he⟩ := Option.isSome_iff_exists.mp (mem_faulty.mp hk.1)
    exact .inl ⟨k, e, hk, he, ofEntries_of_isLeast_faulty hk he⟩

/-- Entries are refused for their first fault, or for their least gap if nothing is wrong with
them. -/
lemma ofEntries_eq_error_iff {entries : List Entry} {e : Error} :
    ofEntries entries = .error e
      ↔ (∃ k, IsLeast (faulty entries) k ∧ faultAt? entries k = some e)
        ∨ (faulty entries = ∅ ∧ ∃ i, IsLeast (gaps entries) i ∧ e = .missingSlot i) := by
  constructor
  · intro h
    rcases ofEntries_cases entries with
      ⟨k, e', hk, he', hout⟩ | ⟨hnone, i, hi, hout⟩ | ⟨-, -, table, hout⟩
    · cases hout.symm.trans h
      exact .inl ⟨k, hk, he'⟩
    · cases hout.symm.trans h
      exact .inr ⟨hnone, i, hi, rfl⟩
    · cases hout.symm.trans h
  · rintro (⟨k, hk, he⟩ | ⟨hnone, i, hi, rfl⟩)
    · exact ofEntries_of_isLeast_faulty hk he
    · exact (faulty_eq_empty_iff.mp hnone).ofEntries_of_isLeast_gaps hi

/-- A slot is missed only by entries with which nothing else is wrong. -/
lemma ofEntries_eq_missingSlot_iff {entries : List Entry} {i : ℕ} :
    ofEntries entries = .error (.missingSlot i)
      ↔ faulty entries = ∅ ∧ IsLeast (gaps entries) i := by
  rw [ofEntries_eq_error_iff]
  constructor
  · rintro (⟨k, -, hfault⟩ | ⟨hnone, j, hj, hij⟩)
    · exact absurd hfault (faultAt?_ne_missingSlot entries k i)
    · cases hij
      exact ⟨hnone, hj⟩
  · rintro ⟨hnone, hi⟩
    exact .inr ⟨hnone, i, hi, rfl⟩

/-- Entries make a table exactly without faults and gaps. -/
lemma exists_ofEntries_iff {entries : List Entry} :
    (∃ table, ofEntries entries = .ok table) ↔ faulty entries = ∅ ∧ gaps entries = ∅ := by
  constructor
  · rintro ⟨table, htable⟩
    rcases ofEntries_cases entries with
      ⟨k, e, -, -, hout⟩ | ⟨-, i, -, hout⟩ | ⟨hnone, hgaps, -⟩
    · cases hout.symm.trans htable
    · cases hout.symm.trans htable
    · exact ⟨hnone, hgaps⟩
  · rintro ⟨hnone, hgaps⟩
    exact (faulty_eq_empty_iff.mp hnone).exists_ofEntries hgaps

/-- **The outcome for any entries.**  An entry is at fault if its index lies beyond the table, or
else if it states no ticks, or else if an entry before it has its index.  Entries are refused for
the first of them that is at fault, or for their least gap if none of them is.  Without faults and
gaps they make a table: there is one entry for each of its slots, whose ticks it holds. -/
theorem outcome_ofEntries (entries : List Entry) :
    (∀ e, ofEntries entries = .error e
        ↔ (∃ k, IsLeast (faulty entries) k ∧ faultAt? entries k = some e)
          ∨ (faulty entries = ∅ ∧ ∃ i, IsLeast (gaps entries) i ∧ e = .missingSlot i))
      ∧ (∀ i, ofEntries entries = .error (.missingSlot i)
        ↔ faulty entries = ∅ ∧ IsLeast (gaps entries) i)
      ∧ ((∃ table, ofEntries entries = .ok table) ↔ faulty entries = ∅ ∧ gaps entries = ∅)
      ∧ ∀ table, ofEntries entries = .ok table
        ↔ faulty entries = ∅ ∧ entries.length = 32
          ∧ ∀ (i : ℕ) (hi : i < 32), ∃ entry,
            entries.filter (·.index.toNat = i) = [entry] ∧ entry.ticks = some table.ticks[i] := by
  refine ⟨fun e => ofEntries_eq_error_iff, fun i => ofEntries_eq_missingSlot_iff,
    exists_ofEntries_iff, fun table => ?_⟩
  rw [ofEntries_eq_ok_iff_filter, faulty_eq_empty_iff]
  rfl

/-- An index beyond the table comes before ticks that are not stated, and a fault of an entry before
the gaps of the whole list. -/
example :
    ofEntries [{ index := 3, line := "0 0011 => 2", ticks := some 2 },
      { index := 40, line := "101000" }, { index := 3, line := "0 0011" }]
      = .error (.indexOutOfRange 40) := by
  decide

end TicksAndWidths.Table.LengthTable
