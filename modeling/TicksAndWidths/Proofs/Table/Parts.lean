import Mathlib.Tactic
import TicksAndWidths.Proofs.Text.Runs
import TicksAndWidths.Table.Annotation

/-!
The parts of a row as they are written, and the readers that take them.

* `IsMark`, `IsTicks`, `IsRemark`: the texts that stand for a mark, for a length in ticks and for a
  remark.
* `Takes`: a reader takes the texts of one such kind from the front, and nothing else.  The readers
  of all three do (`takes_hexMark?`, `takes_ticks?`, `takes_remark?`).
* `Takes.append_cons`: a part before a certain character is read as though the text ended there.
* `IsTaken`: what an optional part takes of a text.  `Takes.optional_eq_iff`: **an optional part is
  read as what it takes**, and leaves the rest.
-/

namespace TicksAndWidths.Table

open Text Unicode

/-! ### Gaps -/

lemma skipGap_gap_append {gap : List Char} (h : ∀ c ∈ gap, isGap c) (rest : List Char) :
    skipGap (gap ++ rest) = skipGap rest :=
  List.dropWhile_append_of_pos h

lemma skipGap_cons_of_not_gap {c : Char} (h : ¬ isGap c) (rest : List Char) :
    skipGap (c :: rest) = c :: rest :=
  List.dropWhile_cons_of_neg h

lemma not_isGap_of_isDigit {c : Char} (h : c.isDigit) : ¬ isGap c := by
  intro hgap
  rcases of_decide_eq_true hgap with rfl | rfl <;> exact absurd h (by decide)

/-- Every text is a gap, with the rest behind it. -/
lemma exists_gap (text : List Char) :
    ∃ gap, (∀ c ∈ gap, isGap c) ∧ text = gap ++ skipGap text :=
  ⟨text.takeWhile isGap, fun _ => List.mem_takeWhile_imp, List.takeWhile_append_dropWhile.symm⟩

/-! ### Parts -/

/-- A text stands for a mark: hexadecimal digits between parentheses, behind a gap. -/
def IsMark (mark : UInt8) (part : List Char) : Prop :=
  ∃ gap digits, (∀ c ∈ gap, isGap c) ∧ digits ≠ [] ∧ (∀ c ∈ digits, isHexDigit c)
    ∧ ofHex digits = mark.toNat ∧ part = gap ++ '(' :: (digits ++ [')'])

/-- A text stands for a length in ticks: an arrow and decimal digits, each behind a gap. -/
def IsTicks (ticks : UInt16) (part : List Char) : Prop :=
  ∃ gap gap' digits, (∀ c ∈ gap, isGap c) ∧ (∀ c ∈ gap', isGap c) ∧ digits ≠ []
    ∧ (∀ c ∈ digits, c.isDigit) ∧ ofDecimal digits = ticks.toNat
    ∧ part = gap ++ '=' :: '>' :: (gap' ++ digits)

/-- A text stands for a remark: its words between parentheses, behind a gap. -/
def IsRemark (words part : List Char) : Prop :=
  ∃ gap, (∀ c ∈ gap, isGap c) ∧ words ≠ [] ∧ ')' ∉ words ∧ part = gap ++ '(' :: (words ++ [')'])

/-- What stands behind the gap of a mark. -/
lemma IsMark.skipGap_append {mark : UInt8} {part : List Char} (h : IsMark mark part)
    (rest : List Char) :
    ∃ digits, digits ≠ [] ∧ (∀ c ∈ digits, isHexDigit c) ∧ ofHex digits = mark.toNat
      ∧ skipGap (part ++ rest) = '(' :: (digits ++ ')' :: rest) := by
  obtain ⟨gap, digits, hgap, hne, hdigits, hvalue, rfl⟩ := h
  refine ⟨digits, hne, hdigits, hvalue, ?_⟩
  rw [List.append_assoc, skipGap_gap_append hgap, List.cons_append,
    skipGap_cons_of_not_gap (by decide), List.append_assoc, List.singleton_append]

/-- What stands behind the gap of a length in ticks. -/
lemma IsTicks.skipGap_append {ticks : UInt16} {part : List Char} (h : IsTicks ticks part)
    (rest : List Char) :
    ∃ gap digits, (∀ c ∈ gap, isGap c) ∧ digits ≠ [] ∧ (∀ c ∈ digits, c.isDigit)
      ∧ ofDecimal digits = ticks.toNat
      ∧ skipGap (part ++ rest) = '=' :: '>' :: (gap ++ (digits ++ rest)) := by
  obtain ⟨gap, gap', digits, hgap, hgap', hne, hdigits, hvalue, rfl⟩ := h
  refine ⟨gap', digits, hgap', hne, hdigits, hvalue, ?_⟩
  rw [List.append_assoc, skipGap_gap_append hgap, List.cons_append, List.cons_append,
    skipGap_cons_of_not_gap (by decide), List.append_assoc]

/-- What stands behind the gap of a remark. -/
lemma IsRemark.skipGap_append {words part : List Char} (h : IsRemark words part)
    (rest : List Char) :
    words ≠ [] ∧ ')' ∉ words ∧ skipGap (part ++ rest) = '(' :: (words ++ ')' :: rest) := by
  obtain ⟨gap, hgap, hne, hclose, rfl⟩ := h
  refine ⟨hne, hclose, ?_⟩
  rw [List.append_assoc, skipGap_gap_append hgap, List.cons_append,
    skipGap_cons_of_not_gap (by decide), List.append_assoc, List.singleton_append]

lemma IsMark.of_mem {mark : UInt8} {part : List Char} (h : IsMark mark part) {c : Char}
    (hc : c ∈ part) : isGap c ∨ c = '(' ∨ c = ')' ∨ isHexDigit c := by
  obtain ⟨gap, digits, hgap, -, hdigits, -, rfl⟩ := h
  simp only [List.mem_append, List.mem_cons, List.not_mem_nil, or_false] at hc
  rcases hc with hc | rfl | hc | rfl
  · exact Or.inl (hgap c hc)
  · exact Or.inr (Or.inl rfl)
  · exact Or.inr (Or.inr (Or.inr (hdigits c hc)))
  · exact Or.inr (Or.inr (Or.inl rfl))

lemma IsTicks.of_mem {ticks : UInt16} {part : List Char} (h : IsTicks ticks part) {c : Char}
    (hc : c ∈ part) : isGap c ∨ c = '=' ∨ c = '>' ∨ c.isDigit := by
  obtain ⟨gap, gap', digits, hgap, hgap', -, hdigits, -, rfl⟩ := h
  simp only [List.mem_append, List.mem_cons] at hc
  rcases hc with hc | rfl | rfl | hc | hc
  · exact Or.inl (hgap c hc)
  · exact Or.inr (Or.inl rfl)
  · exact Or.inr (Or.inr (Or.inl rfl))
  · exact Or.inl (hgap' c hc)
  · exact Or.inr (Or.inr (Or.inr (hdigits c hc)))

lemma IsRemark.getLast? {words part : List Char} (h : IsRemark words part) :
    part.getLast? = some ')' := by
  obtain ⟨gap, -, -, -, rfl⟩ := h
  rw [← List.cons_append, ← List.append_assoc, List.getLast?_concat]

/-! ### Readers -/

section Takes

variable {α : Type}

/-- A reader takes the parts of one kind from the front of a text, each with its value, and nothing
else.  What follows a part may have to end it. -/
def Takes (read? : List Char → Option (α × List Char)) (IsPart : α → List Char → Prop)
    (Ends : List Char → Prop) : Prop :=
  ∀ text a rest,
    read? text = some (a, rest) ↔ ∃ part, IsPart a part ∧ Ends rest ∧ text = part ++ rest

/-- Whatever follows a closing parenthesis, the part is at its end. -/
def EndsClosed (_rest : List Char) : Prop := True

/-- An optional part with its value, as it stands before the rest of a text: one part of its kind,
or nothing if the rest does not begin with any. -/
structure IsTaken (IsPart : α → List Char → Prop) (Ends : List Char → Prop) (a? : Option α)
    (part rest : List Char) : Prop where
  of_some : ∀ a, a? = some a → IsPart a part ∧ Ends rest
  of_none : a? = none → part = [] ∧ ∀ a part' rest', IsPart a part' → Ends rest' →
    rest ≠ part' ++ rest'

variable {read? : List Char → Option (α × List Char)} {IsPart : α → List Char → Prop}
  {Ends : List Char → Prop}

lemma isTaken_some {a : α} {part rest : List Char} :
    IsTaken IsPart Ends (some a) part rest ↔ IsPart a part ∧ Ends rest :=
  ⟨fun h => h.of_some a rfl, fun h => ⟨by rintro _ ⟨⟩; exact h, nofun⟩⟩

lemma isTaken_none {part rest : List Char} :
    IsTaken IsPart Ends none part rest
      ↔ part = [] ∧ ∀ a part' rest', IsPart a part' → Ends rest' → rest ≠ part' ++ rest' :=
  ⟨fun h => h.of_none rfl, fun h => ⟨nofun, fun _ => h⟩⟩

lemma optional_eq_some_iff {text rest : List Char} {a : α} :
    optional read? text = (some a, rest) ↔ read? text = some (a, rest) := by
  rw [optional]
  cases read? text with
  | none => simp
  | some read => simp [Prod.ext_iff]

lemma optional_eq_none_iff {text rest : List Char} :
    optional read? text = (none, rest) ↔ read? text = none ∧ text = rest := by
  rw [optional]
  cases read? text with
  | none => simp
  | some read => simp

/-- A reader fails on the texts that begin with no part of its kind. -/
lemma Takes.eq_none_iff (h : Takes read? IsPart Ends) {text : List Char} :
    read? text = none
      ↔ ∀ a part rest, IsPart a part → Ends rest → text ≠ part ++ rest := by
  rw [Option.eq_none_iff_forall_ne_some]
  constructor
  · intro hnone a part rest hpart hends htext
    exact hnone (a, rest) ((h text a rest).mpr ⟨part, hpart, hends, htext⟩)
  · rintro hnone ⟨a, rest⟩ hread
    obtain ⟨part, hpart, hends, htext⟩ := (h text a rest).mp hread
    exact hnone a part rest hpart hends htext

/-- An optional part is read as it stands in a text. -/
lemma Takes.optional_eq_iff (h : Takes read? IsPart Ends) {text rest : List Char}
    {a? : Option α} :
    optional read? text = (a?, rest)
      ↔ ∃ part, IsTaken IsPart Ends a? part rest ∧ text = part ++ rest := by
  cases a? with
  | some a => simp only [optional_eq_some_iff, h text a rest, isTaken_some, and_assoc]
  | none =>
      simp only [optional_eq_none_iff, h.eq_none_iff, isTaken_none, and_assoc, exists_eq_left,
        List.nil_append]
      constructor
      · rintro ⟨hnone, rfl⟩
        exact ⟨hnone, rfl⟩
      · rintro ⟨hnone, rfl⟩
        exact ⟨hnone, rfl⟩

/-- Every text has an optional part at its front. -/
lemma Takes.exists_isTaken (h : Takes read? IsPart Ends) (text : List Char) :
    ∃ part, IsTaken IsPart Ends (optional read? text).1 part (optional read? text).2
      ∧ text = part ++ (optional read? text).2 :=
  h.optional_eq_iff.mp rfl

/-- A part at the front of a text stands before a certain place of it, or reaches across. -/
lemma exists_of_append_cons_eq_append {c : Char} {front rest part rest' : List Char}
    (h : front ++ c :: rest = part ++ rest') :
    (∃ left, front = part ++ left ∧ rest' = left ++ c :: rest)
      ∨ ∃ more, part = front ++ c :: more ∧ rest = more ++ rest' := by
  rcases List.append_eq_append_iff.mp h with ⟨more, hpart, hrest⟩ | ⟨left, hfront, hrest⟩
  · cases more with
    | nil => exact Or.inl ⟨[], by simpa using hpart.symm, by simpa using hrest.symm⟩
    | cons d more =>
        obtain ⟨rfl, hmore⟩ := List.cons.inj hrest
        exact Or.inr ⟨more, hpart, hmore⟩
  · exact Or.inl ⟨left, hfront, hrest⟩

/-- A part before a certain character is read as though the text ended there, if no part of its kind
reaches across. -/
lemma Takes.append_cons (h : Takes read? IsPart Ends) {c : Char} {front rest : List Char}
    (hends : ∀ left, Ends (left ++ c :: rest) ↔ Ends left)
    (hfront : ∀ a more rest', IsPart a (front ++ c :: more) → rest ≠ more ++ rest') :
    read? (front ++ c :: rest)
      = (read? front).map fun read => (read.1, read.2 ++ c :: rest) := by
  refine Option.ext fun read => ?_
  rw [Option.map_eq_some_iff, Prod.exists]
  constructor
  · intro hread
    obtain ⟨part, hpart, hrest, heq⟩ := (h _ read.1 read.2).mp hread
    rcases exists_of_append_cons_eq_append heq with ⟨left, hleft, hread'⟩ | ⟨more, hmore, hrest'⟩
    · rw [hread', hends] at hrest
      exact ⟨read.1, left, (h _ _ _).mpr ⟨part, hpart, hrest, hleft⟩, by rw [← hread']⟩
    · exact absurd hrest' (hfront read.1 more read.2 (hmore ▸ hpart))
  · rintro ⟨a, left, hread, rfl⟩
    obtain ⟨part, hpart, hrest, rfl⟩ := (h _ _ _).mp hread
    exact (h _ _ _).mpr ⟨part, hpart, (hends left).mpr hrest, List.append_assoc _ _ _⟩

/-- An optional part is left to what follows by a reader that leaves it. -/
lemma optional_append {front rest : List Char}
    (h : read? (front ++ rest) = (read? front).map fun read => (read.1, read.2 ++ rest)) :
    optional read? (front ++ rest)
      = ((optional read? front).1, (optional read? front).2 ++ rest) := by
  rw [optional, optional, h]
  cases read? front <;> rfl

end Takes

lemma takes_hexMark? : Takes hexMark? IsMark EndsClosed := by
  intro text mark rest
  constructor
  · intro h
    rw [hexMark?] at h
    split at h
    · next body hbody =>
        dsimp only at h
        split at h
        · next _ hclose =>
            split_ifs at h with hdigits
            obtain ⟨rfl, rfl⟩ := Prod.mk.inj (Option.some.inj h)
            obtain ⟨gap, hgap, htext⟩ := exists_gap text
            refine ⟨gap ++ '(' :: (body.takeWhile isHexDigit ++ [')']),
              ⟨gap, _, hgap, hdigits.1, fun _ => List.mem_takeWhile_imp,
                (UInt8.toNat_ofNat_of_lt' hdigits.2).symm, rfl⟩, trivial, ?_⟩
            rw [htext, hbody]
            simpa using eq_append_of_dropWhile_eq_cons hclose
        · cases h
    · cases h
  · rintro ⟨part, hpart, -, rfl⟩
    obtain ⟨digits, hne, hdigits, hvalue, hskip⟩ := hpart.skipGap_append rest
    have hclose : ∀ c ∈ (')' :: rest).head?, ¬ isHexDigit c := by
      simpa using (by decide : ¬ isHexDigit ')')
    simp only [hexMark?, hskip, takeWhile_append_of_stop hdigits hclose,
      dropWhile_append_of_stop hdigits hclose]
    rw [if_pos ⟨hne, hvalue ▸ mark.toNat_lt⟩, hvalue, UInt8.ofNat_toNat]

lemma takes_ticks? : Takes ticks? IsTicks EndsNumber := by
  intro text ticks rest
  constructor
  · intro h
    rw [ticks?] at h
    split at h
    · next body hbody =>
        obtain ⟨⟨n, rest'⟩, hread, h⟩ := Option.bind_eq_some_iff.mp h
        dsimp only at h
        split_ifs at h with hn
        obtain ⟨rfl, rfl⟩ := Prod.mk.inj (Option.some.inj h)
        obtain ⟨digits, hne, hdigits, rfl, hends, hnumber⟩ := readDecimal?_eq_some_iff.mp hread
        obtain ⟨gap, hgap, htext⟩ := exists_gap text
        obtain ⟨gap', hgap', hspace⟩ := exists_gap body
        refine ⟨_, ⟨gap, gap', digits, hgap, hgap', hne, hdigits,
          (UInt16.toNat_ofNat_of_lt' hn).symm, rfl⟩, hends, ?_⟩
        rw [htext, hbody, hspace, hnumber]
        simp
    · cases h
  · rintro ⟨part, hpart, hends, rfl⟩
    obtain ⟨gap, digits, hgap, hne, hdigits, hvalue, hskip⟩ := hpart.skipGap_append rest
    have hnumber : skipGap (gap ++ (digits ++ rest)) = digits ++ rest := by
      rw [skipGap_gap_append hgap]
      cases digits with
      | nil => exact absurd rfl hne
      | cons d digits =>
          exact skipGap_cons_of_not_gap (not_isGap_of_isDigit (hdigits d List.mem_cons_self)) _
    have hread : readDecimal? (digits ++ rest) = some (ticks.toNat, rest) :=
      readDecimal?_eq_some_iff.mpr ⟨digits, hne, hdigits, hvalue, hends, rfl⟩
    simp [ticks?, hskip, hnumber, hread, ticks.toNat_lt]

lemma takes_remark? : Takes remark? IsRemark EndsClosed := by
  intro text words rest
  constructor
  · intro h
    rw [remark?] at h
    split at h
    · next body hbody =>
        dsimp only at h
        split at h
        · next _ hclose =>
            split_ifs at h with hne
            obtain ⟨rfl, rfl⟩ := Prod.mk.inj (Option.some.inj h)
            obtain ⟨gap, hgap, htext⟩ := exists_gap text
            have hwords : ')' ∉ body.takeWhile (· ≠ ')') := fun hmem => by
              simpa using List.mem_takeWhile_imp hmem
            refine ⟨gap ++ '(' :: (body.takeWhile (· ≠ ')') ++ [')']),
              ⟨gap, hgap, hne, hwords, rfl⟩, trivial, ?_⟩
            rw [htext, hbody]
            simpa using eq_append_of_dropWhile_eq_cons hclose
        · cases h
    · cases h
  · rintro ⟨part, hpart, -, rfl⟩
    obtain ⟨hne, hclose, hskip⟩ := hpart.skipGap_append rest
    have hspan := span_ne_append hclose rest
    simp only [remark?, hskip, hspan.1, hspan.2]
    rw [if_pos hne]

end TicksAndWidths.Table
