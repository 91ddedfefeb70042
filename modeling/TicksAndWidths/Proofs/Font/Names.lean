import Mathlib.Tactic
import TicksAndWidths.Font.Name.Order

/-!
The names by which glyphs are told apart, glyph by glyph.

* `getElem?_numberRepeats`: the running count of the numbering is the number of equal names before
  a position, so a glyph's name depends on the base names up to it alone (`Face.glyphNames_eq`).
* `append_number_inj`: a base name and a number are read off the numbered name, at its last `#`.
* `Face.glyphName_eq_glyphName_iff`: **two glyphs share a name** exactly when the base name of the
  one is what the other is called after numbering (`Face.Clash`).
* `Face.glyphName_eq_notdefName_iff`: no glyph but the first is called `.notdef`.
* `Face.glyphName_eq_fallbackName_iff`: which glyphs bear the fallback name of a number.
-/

namespace TicksAndWidths.Font

open Text

/-! ### Numbered names -/

lemma hash_notMem_decimal (n : Nat) : '#' ∉ decimal n :=
  fun h => absurd (isDigit_of_mem_decimal h) (by decide)

lemma decimal_injective : Function.Injective decimal := by
  intro m n h
  rw [← ofDecimal_decimal m, h, ofDecimal_decimal]

/-- A word is cut in one way only at its last occurrence of a letter. -/
lemma append_cons_inj_of_notMem_right {α : Type} {c : α} {l₁ l₂ r₁ r₂ : List α} (h₁ : c ∉ r₁)
    (h₂ : c ∉ r₂) (h : l₁ ++ c :: r₁ = l₂ ++ c :: r₂) : l₁ = l₂ ∧ r₁ = r₂ := by
  rcases List.append_eq_append_iff.mp h with ⟨m, hl, hr⟩ | ⟨m, hl, hr⟩
  · cases m with
    | nil => simpa [hl] using hr
    | cons d m =>
        simp only [List.cons_append, List.cons.injEq] at hr
        exact absurd (hr.2 ▸ by simp) h₁
  · cases m with
    | nil => simpa [hl, eq_comm] using hr
    | cons d m =>
        simp only [List.cons_append, List.cons.injEq] at hr
        exact absurd (hr.2 ▸ by simp) h₂

lemma toList_append_number (base : String) (k : Nat) :
    (base ++ "#" ++ toString k).toList = base.toList ++ '#' :: decimal k := by
  simp [String.toList_append, decimal]

/-- A base name and its number are read off the numbered name. -/
lemma append_number_inj {a b : String} {i j : Nat}
    (h : a ++ "#" ++ toString i = b ++ "#" ++ toString j) : a = b ∧ i = j := by
  have hl := congrArg String.toList h
  rw [toList_append_number, toList_append_number] at hl
  obtain ⟨hab, hij⟩ := append_cons_inj_of_notMem_right (hash_notMem_decimal i)
    (hash_notMem_decimal j) hl
  exact ⟨String.toList_inj.mp hab, decimal_injective hij⟩

lemma hash_mem_append_number (base : String) (k : Nat) :
    '#' ∈ (base ++ "#" ++ toString k).toList := by
  rw [toList_append_number]
  simp

@[simp] lemma numbered_zero (base : String) : numbered base 0 = base := rfl

lemma numbered_of_pos {k : Nat} (hk : 0 < k) (base : String) :
    numbered base k = base ++ "#" ++ toString k := by
  rw [numbered, if_neg (by omega)]

/-- The running count of the numbering is the number of equal names before a position. -/
lemma getElem?_numberRepeats (seen : Std.TreeMap String Nat) (bases : List String) (i : Nat) :
    (numberRepeats seen bases)[i]?
      = bases[i]?.map fun base => numbered base (seen.getD base 0 + (bases.take i).count base) := by
  induction bases generalizing seen i with
  | nil => simp [numberRepeats]
  | cons base rest ih =>
      cases i with
      | zero => simp [numberRepeats]
      | succ i =>
          simp only [numberRepeats, List.getElem?_cons_succ, List.take_succ_cons, ih,
            List.count_cons, Std.TreeMap.getD_insert]
          congr 1
          funext other
          by_cases h : base = other
          · subst h
            simp only [Std.compare_self, beq_self_eq_true, if_true]
            rw [show seen.getD base 0 + 1 + (rest.take i).count base
              = seen.getD base 0 + ((rest.take i).count base + 1) from by omega]
          · simp [h]

/-! ### Fallback names -/

/-- The fallback name of a glyph beside the first: a word and a padded numeral. -/
lemma toList_fallbackName {glyph : Nat} (h : glyph ≠ 0) :
    (fallbackName glyph).toList = "glyph".toList ++ (decimal glyph).leftpad 5 '0' := by
  rw [fallbackName, if_neg h, String.toList_append]
  exact congrArg _ String.toList_ofList

lemma ofDecimal_leftpad (width n : Nat) : ofDecimal ((decimal n).leftpad width '0') = n := by
  rw [List.leftpad, ofDecimal, Nat.ofDigitChars_append, Nat.ofDigitChars_replicate_zero,
    Nat.mul_zero]
  exact ofDecimal_decimal n

lemma fallbackName_ne_notdefName {glyph : Nat} (h : glyph ≠ 0) :
    fallbackName glyph ≠ notdefName := by
  intro heq
  have hl := congrArg (fun name => name.toList.head?) heq
  simp [toList_fallbackName h, notdefName] at hl

/-- Different glyphs have different fallback names. -/
lemma fallbackName_injective : Function.Injective fallbackName := by
  intro m n h
  by_cases hm : m = 0
  · subst hm
    by_contra hn
    exact fallbackName_ne_notdefName (Ne.symm hn) h.symm
  by_cases hn : n = 0
  · subst hn
    exact absurd h (fallbackName_ne_notdefName hm)
  have hl := congrArg String.toList h
  rw [toList_fallbackName hm, toList_fallbackName hn, List.append_cancel_left_eq] at hl
  rw [← ofDecimal_leftpad 5 m, hl, ofDecimal_leftpad]

lemma hash_notMem_notdefName : '#' ∉ notdefName.toList := by decide

lemma hash_notMem_fallbackName (glyph : Nat) : '#' ∉ (fallbackName glyph).toList := by
  by_cases h : glyph = 0
  · rw [fallbackName, if_pos h]
    exact hash_notMem_notdefName
  · rw [toList_fallbackName h, List.leftpad]
    simp [hash_notMem_decimal]

namespace Face

variable (face : Face)

/-! ### The name of a glyph -/

/-- How many glyphs before this one have the same base name. -/
def rank (glyph : Nat) : Nat :=
  (List.range glyph).countP fun other => face.baseName other = face.baseName glyph

/-- The name by which a glyph is told apart. -/
def glyphName (glyph : Nat) : String :=
  numbered (face.baseName glyph) (face.rank glyph)

/-- The names of all glyphs are their base names, each numbered by how often it came before. -/
lemma glyphNames_eq :
    face.glyphNames = (List.range face.glyphCount.toNat).map face.glyphName := by
  apply List.ext_getElem?
  intro i
  rw [glyphNames, getElem?_numberRepeats, List.getElem?_map, List.getElem?_map]
  by_cases h : i < face.glyphCount.toNat
  · have hmin : min i face.glyphCount.toNat = i := by omega
    simp only [List.getElem?_range h, Option.map_some, glyphName, rank, ← List.map_take,
      List.take_range, hmin, List.count, List.countP_map, Std.TreeMap.getD_emptyc, Nat.zero_add]
    rfl
  · have hlen : (List.range face.glyphCount.toNat).length ≤ i := by simpa using h
    simp [List.getElem?_eq_none hlen]

lemma getElem?_glyphNames {glyph : Nat} (h : glyph < face.glyphCount.toNat) :
    face.glyphNames[glyph]? = some (face.glyphName glyph) := by
  rw [glyphNames_eq, List.getElem?_map, List.getElem?_range h, Option.map_some]

lemma length_glyphNames : face.glyphNames.length = face.glyphCount.toNat := by
  rw [glyphNames_eq, List.length_map, List.length_range]

/-- Among glyphs of one base name the rank grows. -/
lemma rank_lt_rank {p q : Nat} (h : p < q) (hbase : face.baseName p = face.baseName q) :
    face.rank p < face.rank q := by
  have hsub : (List.range (p + 1)).Sublist (List.range q) :=
    List.range_sublist.mpr (by omega)
  have hle := hsub.countP_le (p := fun other => face.baseName other = face.baseName q)
  rw [List.range_succ, List.countP_append] at hle
  simp only [List.countP_singleton, hbase, decide_true, if_true] at hle
  simp only [rank, hbase]
  omega

/-- Two glyphs of one base name differ in rank. -/
lemma rank_ne_rank {p q : Nat} (h : p ≠ q) (hbase : face.baseName p = face.baseName q) :
    face.rank p ≠ face.rank q := by
  rcases Nat.lt_or_gt_of_ne h with hlt | hgt
  · exact (face.rank_lt_rank hlt hbase).ne
  · exact (face.rank_lt_rank hgt hbase.symm).ne'

/-- The base name of the glyph `p`, which no glyph before it has, is what the glyph `q` is called
after numbering. -/
def Clash (p q : Nat) : Prop :=
  face.rank p = 0 ∧ 0 < face.rank q
    ∧ face.baseName p = face.baseName q ++ "#" ++ toString (face.rank q)

lemma glyphName_eq_of_clash {face : Face} {p q : Nat} (h : face.Clash p q) :
    face.glyphName p = face.glyphName q := by
  rw [glyphName, glyphName, h.1, numbered_zero, h.2.2, numbered_of_pos h.2.1]

/-- **Two glyphs share a name** exactly when the base name of the one is what the other is called
after numbering. -/
theorem glyphName_eq_glyphName_iff {p q : Nat} (h : p ≠ q) :
    face.glyphName p = face.glyphName q ↔ face.Clash p q ∨ face.Clash q p := by
  constructor
  · intro heq
    rw [glyphName, glyphName] at heq
    rcases Nat.eq_zero_or_pos (face.rank p) with hp | hp <;>
      rcases Nat.eq_zero_or_pos (face.rank q) with hq | hq
    · rw [hp, hq, numbered_zero, numbered_zero] at heq
      exact absurd (hp.trans hq.symm) (face.rank_ne_rank h heq)
    · rw [hp, numbered_zero, numbered_of_pos hq] at heq
      exact Or.inl ⟨hp, hq, heq⟩
    · rw [hq, numbered_zero, numbered_of_pos hp] at heq
      exact Or.inr ⟨hq, hp, heq.symm⟩
    · rw [numbered_of_pos hp, numbered_of_pos hq] at heq
      obtain ⟨hbase, hrank⟩ := append_number_inj heq
      exact absurd hrank (face.rank_ne_rank h hbase)
  · rintro (hpq | hqp)
    · exact glyphName_eq_of_clash hpq
    · exact (glyphName_eq_of_clash hqp).symm

/-! ### Names without a number -/

/-- A name without a `#` is borne by the first glyph of that base name alone. -/
lemma glyphName_eq_iff_of_hash_notMem {name : String} (hname : '#' ∉ name.toList) (glyph : Nat) :
    face.glyphName glyph = name ↔ face.rank glyph = 0 ∧ face.baseName glyph = name := by
  constructor
  · intro h
    rcases Nat.eq_zero_or_pos (face.rank glyph) with hr | hr
    · exact ⟨hr, by rwa [glyphName, hr, numbered_zero] at h⟩
    · rw [glyphName, numbered_of_pos hr] at h
      exact absurd (h ▸ hash_mem_append_number _ _) hname
  · rintro ⟨hrank, hbase⟩
    rw [glyphName, hrank, numbered_zero, hbase]

@[simp] lemma glyphName_zero : face.glyphName 0 = notdefName := by
  simp [glyphName, rank, baseName]

/-- No glyph but the first is called `.notdef`. -/
lemma glyphName_eq_notdefName_iff (glyph : Nat) :
    face.glyphName glyph = notdefName ↔ glyph = 0 := by
  constructor
  · intro h
    obtain ⟨hrank, hbase⟩ :=
      (face.glyphName_eq_iff_of_hash_notMem hash_notMem_notdefName glyph).mp h
    by_contra hne
    have hlt : face.rank 0 < face.rank glyph :=
      face.rank_lt_rank (Nat.pos_of_ne_zero hne) (by rw [hbase]; rfl)
    omega
  · rintro rfl
    exact face.glyphName_zero

/-- The glyphs that bear the fallback name of a number. -/
lemma glyphName_eq_fallbackName_iff (glyph number : Nat) :
    face.glyphName glyph = fallbackName number
      ↔ face.rank glyph = 0 ∧ face.baseName glyph = fallbackName number :=
  face.glyphName_eq_iff_of_hash_notMem (hash_notMem_fallbackName number) glyph

/-- Every base name has a first glyph, which comes by it unnumbered. -/
lemma exists_rank_eq_zero (glyph : Nat) :
    ∃ first ≤ glyph, face.rank first = 0 ∧ face.baseName first = face.baseName glyph := by
  induction glyph using Nat.strong_induction_on with
  | _ glyph ih =>
      by_cases hrank : face.rank glyph = 0
      · exact ⟨glyph, le_rfl, hrank, rfl⟩
      · rw [rank, List.countP_eq_zero] at hrank
        push Not at hrank
        obtain ⟨other, hother, hbase⟩ := hrank
        have hlt := List.mem_range.mp hother
        obtain ⟨first, hle, hfirst, hname⟩ := ih other hlt
        exact ⟨first, by omega, hfirst, hname.trans (by simpa using hbase)⟩

/-- A base name is borne by the first glyph that has it. -/
lemma exists_glyphName_eq_baseName (glyph : Nat) :
    ∃ first ≤ glyph, face.glyphName first = face.baseName glyph := by
  obtain ⟨first, hle, hfirst, hbase⟩ := face.exists_rank_eq_zero glyph
  exact ⟨first, hle, by rw [glyphName, hfirst, numbered_zero, hbase]⟩

/-- Where no names are stored every glyph goes by its number. -/
lemma glyphName_eq_fallbackName (h : face.storedNames = none) (glyph : Nat) :
    face.glyphName glyph = fallbackName glyph := by
  have hbase : ∀ g, face.baseName g = fallbackName g := by
    intro g
    by_cases hg : g = 0
    · subst hg
      rfl
    · simp [baseName, hg, storedName?, h]
  rw [glyphName_eq_fallbackName_iff]
  refine ⟨?_, hbase glyph⟩
  rw [rank, List.countP_eq_zero]
  intro other hother
  simp only [hbase, decide_eq_true_eq]
  exact fun heq => absurd (fallbackName_injective heq) (Nat.ne_of_lt (List.mem_range.mp hother))

end Face

end TicksAndWidths.Font
