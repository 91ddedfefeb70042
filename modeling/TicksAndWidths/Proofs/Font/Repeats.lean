import Mathlib.Tactic
import TicksAndWidths.Proofs.Font.Answers

/-!
Which glyphs of a face share a name, and how many names are lost by it.

* `Face.glyphNames_numbered`: **the names of all glyphs**, from `.notdef`, the stored names and the
  fallback names on, and when a name is repeated: exactly when some base name is another base name
  followed by the number of its earlier occurrences.
* `Face.clashing`: the glyphs whose base name is what another glyph is called after numbering.  The
  other glyphs have different names, and all names (`Face.card_image_glyphName`).
* `Face.glyphNames_nodup_iff`: **the names are different** exactly when no glyph clashes with
  another, and the glyph set has one entry less than there are glyphs for each glyph that does.
-/

namespace TicksAndWidths.Font

namespace Face

variable (face : Face)

/-! ### When a name is repeated -/

/-- A base name that is another one after numbering makes its first glyph clash. -/
lemma exists_clash {p q : Nat} (hq : 0 < face.rank q)
    (hbase : face.baseName p = face.baseName q ++ "#" ++ toString (face.rank q)) :
    ∃ first ≤ p, face.Clash first q := by
  obtain ⟨first, hle, hrank, hfirst⟩ := face.exists_rank_eq_zero p
  exact ⟨first, hle, hrank, hq, hfirst.trans hbase⟩

lemma Clash.ne {face : Face} {p q : Nat} (h : face.Clash p q) : p ≠ q := by
  rintro rfl
  exact absurd h.1 (Nat.ne_of_gt h.2.1)

/-- Two glyphs of the face share a name exactly when one of them clashes with the other. -/
lemma getElem?_glyphNames_eq_iff {p q : Nat} (hp : p < face.glyphCount.toNat)
    (hq : q < face.glyphCount.toNat) :
    p ≠ q ∧ face.glyphNames[p]? = face.glyphNames[q]? ↔ face.Clash p q ∨ face.Clash q p := by
  rw [face.getElem?_glyphNames hp, face.getElem?_glyphNames hq, Option.some.injEq]
  constructor
  · rintro ⟨hne, heq⟩
    exact (face.glyphName_eq_glyphName_iff hne).mp heq
  · intro h
    have hne : p ≠ q := h.elim Clash.ne fun hqp => hqp.ne.symm
    exact ⟨hne, (face.glyphName_eq_glyphName_iff hne).mpr h⟩

/-- **The names of all glyphs.**  The base name of the first glyph is `.notdef`, and that of another
glyph its stored name or, without one, its fallback name.  A glyph goes by its base name if no glyph
before it has that base name, and otherwise by the base name and the number of such glyphs.  Two
glyphs share a name exactly when one clashes with the other.  Some two do exactly when the base name
of a glyph is that of another one followed by the number, not zero, of earlier glyphs with the
latter's base name. -/
theorem glyphNames_numbered :
    (face.baseName 0 = ".notdef"
        ∧ ∀ glyph, glyph ≠ 0 →
          face.baseName glyph = (face.storedName? glyph).getD (fallbackName glyph))
      ∧ face.glyphNames = (List.range face.glyphCount.toNat).map (fun glyph =>
        if face.rank glyph = 0 then face.baseName glyph
        else face.baseName glyph ++ "#" ++ toString (face.rank glyph))
      ∧ (∀ i j, (i < face.glyphCount.toNat ∧ j < face.glyphCount.toNat
          ∧ i ≠ j ∧ face.glyphNames[i]? = face.glyphNames[j]?)
        ↔ i < face.glyphCount.toNat ∧ j < face.glyphCount.toNat
          ∧ (face.Clash i j ∨ face.Clash j i))
      ∧ ((∃ i < face.glyphCount.toNat, ∃ j < face.glyphCount.toNat,
          i ≠ j ∧ face.glyphNames[i]? = face.glyphNames[j]?)
        ↔ ∃ p < face.glyphCount.toNat, ∃ q < face.glyphCount.toNat, ∃ k, 1 ≤ k
          ∧ face.rank q = k ∧ face.baseName p = face.baseName q ++ "#" ++ toString k) := by
  refine ⟨⟨rfl, fun glyph hne => if_neg hne⟩, face.glyphNames_eq, fun i j => ?_, ?_, ?_⟩
  · exact and_congr_right fun hi => and_congr_right fun hj => face.getElem?_glyphNames_eq_iff hi hj
  · rintro ⟨i, hi, j, hj, hsame⟩
    rcases (face.getElem?_glyphNames_eq_iff hi hj).mp hsame with h | h
    · exact ⟨i, hi, j, hj, _, h.2.1, rfl, h.2.2⟩
    · exact ⟨j, hj, i, hi, _, h.2.1, rfl, h.2.2⟩
  · rintro ⟨p, hp, q, hq, k, hk, rfl, hbase⟩
    obtain ⟨first, hle, hclash⟩ := face.exists_clash hk hbase
    have hfirst : first < face.glyphCount.toNat := by omega
    exact ⟨first, hfirst, q, hq, (face.getElem?_glyphNames_eq_iff hfirst hq).mpr (Or.inl hclash)⟩

/-- The face with misleading names, without the name that is stored for its last glyph. -/
def partlyNamedFace : Face :=
  { misleadingFace with
    storedNames := some { numbers := #[36, 36, 36, 258, 259], strings := #["A#1", "glyph00009"] } }

theorem glyphNames_numbered_partlyNamedFace :
    partlyNamedFace.storedName? 0 = some "A" ∧ partlyNamedFace.baseName 0 = ".notdef"
      ∧ partlyNamedFace.storedName? 4 = some "glyph00009"
      ∧ partlyNamedFace.baseName 4 = "glyph00009"
      ∧ partlyNamedFace.storedName? 5 = none ∧ partlyNamedFace.baseName 5 = "glyph00005"
      ∧ partlyNamedFace.glyphNames = [".notdef", "A", "A#1", "A#1", "glyph00009", "glyph00005"]
      ∧ ∃ i < partlyNamedFace.glyphCount.toNat, ∃ j < partlyNamedFace.glyphCount.toNat,
          i ≠ j ∧ partlyNamedFace.glyphNames[i]? = partlyNamedFace.glyphNames[j]? := by
  have first : partlyNamedFace.storedName? 0 = some "A" := by decide +kernel
  have fifth : partlyNamedFace.storedName? 4 = some "glyph00009" := by decide +kernel
  have sixth : partlyNamedFace.storedName? 5 = none := by decide +kernel
  obtain ⟨⟨hzero, hbase⟩, hnames, -, hrepeated⟩ := glyphNames_numbered partlyNamedFace
  refine ⟨first, hzero, fifth, ?_, sixth, ?_, ?_, hrepeated.mpr ?_⟩
  · rw [hbase 4 (by decide), fifth, Option.getD_some]
  · rw [hbase 5 (by decide), sixth, Option.getD_none]
    decide
  · rw [hnames]
    decide +kernel
  · -- the fourth glyph is stored as `A#1`, and the third is the second one of base name `A`
    exact ⟨3, by decide, 2, by decide, 1, le_rfl, by decide +kernel, by decide +kernel⟩

/-! ### How many names are lost -/

instance (p q : Nat) : Decidable (face.Clash p q) :=
  inferInstanceAs (Decidable (_ ∧ _ ∧ _))

/-- The glyphs whose base name is what another glyph is called after numbering. -/
def clashing : Finset Nat :=
  (Finset.range face.glyphCount.toNat).filter fun p =>
    ∃ q < face.glyphCount.toNat, face.Clash p q

lemma clashing_subset : face.clashing ⊆ Finset.range face.glyphCount.toNat :=
  Finset.filter_subset _ _

lemma mem_clashing (p : Nat) : p ∈ face.clashing
    ↔ p < face.glyphCount.toNat ∧ ∃ q < face.glyphCount.toNat, face.Clash p q := by
  rw [clashing, Finset.mem_filter, Finset.mem_range]

/-- Off the clashing glyphs different glyphs have different names. -/
lemma injOn_glyphName : Set.InjOn face.glyphName
    (Finset.range face.glyphCount.toNat \ face.clashing : Finset Nat) := by
  intro p hp q hq heq
  rw [Finset.mem_coe, Finset.mem_sdiff, Finset.mem_range, mem_clashing] at hp hq
  by_contra hne
  rcases (face.glyphName_eq_glyphName_iff hne).mp heq with h | h
  · exact hp.2 ⟨hp.1, q, hq.1, h⟩
  · exact hq.2 ⟨hq.1, p, hp.1, h⟩

/-- A clashing glyph has the name of one that does not clash. -/
lemma image_glyphName_sdiff_clashing :
    (Finset.range face.glyphCount.toNat \ face.clashing).image face.glyphName
      = (Finset.range face.glyphCount.toNat).image face.glyphName := by
  refine (Finset.image_subset_image Finset.sdiff_subset).antisymm fun name hname => ?_
  obtain ⟨p, hp, rfl⟩ := Finset.mem_image.mp hname
  by_cases hclash : p ∈ face.clashing
  · obtain ⟨-, q, hq, hpq⟩ := (face.mem_clashing p).mp hclash
    -- the other glyph is numbered, and a clashing one never is
    have hq' : q ∉ face.clashing := fun h => by
      obtain ⟨-, _, -, hrank, -⟩ := (face.mem_clashing q).mp h
      exact absurd hrank (Nat.ne_of_gt hpq.2.1)
    exact Finset.mem_image.mpr ⟨q, Finset.mem_sdiff.mpr ⟨Finset.mem_range.mpr hq, hq'⟩,
      (glyphName_eq_of_clash hpq).symm⟩
  · exact Finset.mem_image_of_mem _ (Finset.mem_sdiff.mpr ⟨hp, hclash⟩)

/-- There is one name less than there are glyphs for each clashing glyph. -/
lemma card_image_glyphName :
    ((Finset.range face.glyphCount.toNat).image face.glyphName).card + face.clashing.card
      = face.glyphCount.toNat := by
  calc ((Finset.range face.glyphCount.toNat).image face.glyphName).card + face.clashing.card
      = ((Finset.range face.glyphCount.toNat \ face.clashing).image face.glyphName).card
          + face.clashing.card := by rw [image_glyphName_sdiff_clashing]
    _ = (Finset.range face.glyphCount.toNat \ face.clashing).card + face.clashing.card := by
        rw [Finset.card_image_of_injOn face.injOn_glyphName]
    _ = (Finset.range face.glyphCount.toNat).card :=
        Finset.card_sdiff_add_card_eq_card face.clashing_subset
    _ = face.glyphCount.toNat := Finset.card_range _

lemma nodup_glyphNames_iff_injOn : face.glyphNames.Nodup
    ↔ ∀ p < face.glyphCount.toNat, ∀ q < face.glyphCount.toNat,
        face.glyphName p = face.glyphName q → p = q := by
  rw [glyphNames_eq, List.nodup_map_iff_inj_on List.nodup_range]
  simp only [List.mem_range]

/-- If every glyph has a width the measured names are the names of all glyphs. -/
lemma toFinset_measuredNames_glyphNames
    (measured : ∀ glyph < face.glyphCount.toNat, (face.advance? glyph).isSome) :
    (face.measuredNames face.glyphNames).toFinset
      = (Finset.range face.glyphCount.toNat).image face.glyphName := by
  ext name
  rw [List.mem_toFinset, mem_measuredNames, Finset.mem_image]
  refine exists_congr fun glyph => ?_
  rw [mem_bearers_glyphNames, Finset.mem_range]
  constructor
  · rintro ⟨hlt, hname, -⟩
    exact ⟨hlt, hname⟩
  · rintro ⟨hlt, hname⟩
    exact ⟨hlt, hname, measured glyph hlt⟩

/-- **The names of a face are different** exactly when no glyph clashes with another.  If all glyphs
have a width, the glyph set has one entry less than there are glyphs for each clashing glyph. -/
theorem glyphNames_nodup_iff :
    (face.glyphNames.Nodup ↔ ∀ p < face.glyphCount.toNat, ∀ q < face.glyphCount.toNat,
        ¬ face.Clash p q)
      ∧ ((∀ glyph < face.glyphCount.toNat, (face.advance? glyph).isSome) →
        ∃ set, (face.glyphSet face.glyphNames : Logged GlyphError GlyphSet).outcome = .ok set
          ∧ set.size + face.clashing.card = face.glyphCount.toNat
          ∧ (set.size = face.glyphCount.toNat ↔ face.glyphNames.Nodup)) := by
  have hnodup : face.glyphNames.Nodup ↔ ∀ p < face.glyphCount.toNat,
      ∀ q < face.glyphCount.toNat, ¬ face.Clash p q := by
    rw [nodup_glyphNames_iff_injOn]
    constructor
    · intro hinj p hp q hq hclash
      exact hclash.ne (hinj p hp q hq (glyphName_eq_of_clash hclash))
    · intro hnone p hp q hq heq
      by_contra hne
      rcases (face.glyphName_eq_glyphName_iff hne).mp heq with h | h
      · exact hnone p hp q hq h
      · exact hnone q hq p hp h
  refine ⟨hnodup, fun measured => ?_⟩
  have hsize : (face.glyphSetOf face.glyphNames).size + face.clashing.card
      = face.glyphCount.toNat := by
    rw [size_glyphSetOf, face.toFinset_measuredNames_glyphNames measured]
    exact face.card_image_glyphName
  have hempty : face.clashing.card = 0 ↔ ∀ p < face.glyphCount.toNat,
      ∀ q < face.glyphCount.toNat, ¬ face.Clash p q := by
    simp only [Finset.card_eq_zero, Finset.eq_empty_iff_forall_notMem, mem_clashing, not_and,
      not_exists]
  refine ⟨_, face.outcome_glyphSet _, hsize, ?_⟩
  rw [hnodup, ← hempty]
  omega

/-- All six glyphs have a width, and the set has five entries: the third glyph is called `A#1` after
numbering, and the fourth is stored under that name. -/
theorem glyphNames_repeated_in_misleadingFont :
    (openFont misleadingFont).outcome = .ok misleadingFace
      ∧ misleadingFace.glyphNames[2]? = some "A#1" ∧ misleadingFace.glyphNames[3]? = some "A#1"
      ∧ misleadingFace.glyphCount = 6 ∧ (∀ glyph < 6, (misleadingFace.advance? glyph).isSome)
      ∧ ∃ set, (misleadingFace.glyphSet misleadingFace.glyphNames
          : Logged GlyphError GlyphSet).outcome = .ok set ∧ set.size = 5 := by
  refine ⟨?_, ?_, ?_, rfl, ?_, _, misleadingFace.outcome_glyphSet _, ?_⟩ <;> decide +kernel

theorem glyphNames_nodup_iff_misleadingFace :
    (∀ glyph < misleadingFace.glyphCount.toNat, (misleadingFace.advance? glyph).isSome)
      ∧ misleadingFace.clashing = {3} ∧ ¬ misleadingFace.glyphNames.Nodup
      ∧ ∃ set, (misleadingFace.glyphSet misleadingFace.glyphNames
          : Logged GlyphError GlyphSet).outcome = .ok set
        ∧ set.size + 1 = misleadingFace.glyphCount.toNat := by
  have measured : ∀ glyph < misleadingFace.glyphCount.toNat,
      (misleadingFace.advance? glyph).isSome := by decide +kernel
  have clashing : misleadingFace.clashing = {3} := by decide +kernel
  have clash : misleadingFace.Clash 3 2 := by decide +kernel
  obtain ⟨hnodup, hset⟩ := glyphNames_nodup_iff misleadingFace
  obtain ⟨set, hset, hsize, -⟩ := hset measured
  rw [clashing, Finset.card_singleton] at hsize
  refine ⟨measured, clashing, fun h => ?_, set, hset, hsize⟩
  exact hnodup.mp h 3 (by decide +kernel) 2 (by decide +kernel) clash

end Face

end TicksAndWidths.Font
