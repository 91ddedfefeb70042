import Mathlib.Tactic
import TicksAndWidths.Font.Measure
import TicksAndWidths.Proofs.Font.Stores

/-!
Which of its character maps a face is read by, and what is read from it.

* `preferenceRank?`: the place of an encoding among those of Unicode maps, best first.
* `FirstOfLowestRank`: the first map of the lowest rank in a list of maps, said by the maps before
  it and after it; `bestCharmap?` chooses it (`firstOfLowestRank_of_bestCharmap?_eq_some`), and
  nothing exactly when no map has a rank (`bestCharmap?_eq_none_iff`).  A list has one such map
  (`FirstOfLowestRank.unique`).
* `SameReadings.map_reading_bestCharmap?`: of maps for different encodings the choice depends
  neither on their order nor on the maps without a rank.
* `Face.characterMap_of_lowest_rank`: **the character map of a face** holds the codes that the
  chosen map lists with a glyph, each with its name, and nothing else.
-/

namespace TicksAndWidths.Font

/-! ### Ranks of encodings -/

/-- The place of an encoding among those of Unicode maps, best first. -/
def preferenceRank? (encoding : Encoding) : Option Nat :=
  preferredEncodings.idxOf? encoding

lemma nodup_preferredEncodings : preferredEncodings.Nodup := by decide

lemma preferenceRank?_eq_some_iff (encoding : Encoding) (rank : Nat) :
    preferenceRank? encoding = some rank ↔ preferredEncodings[rank]? = some encoding := by
  rw [preferenceRank?, List.idxOf?_eq_some_iff, List.getElem?_eq_some_iff]
  refine exists_congr fun hlt => and_iff_left_of_imp ?_
  rintro rfl other hother heq
  have := (nodup_preferredEncodings.getElem_inj_iff).mp heq
  omega

/-- Encodings of one rank are the same. -/
lemma eq_of_preferenceRank?_eq_some {a b : Encoding} {rank : Nat}
    (ha : preferenceRank? a = some rank) (hb : preferenceRank? b = some rank) : a = b := by
  rw [preferenceRank?_eq_some_iff] at ha hb
  exact Option.some.inj (ha.symm.trans hb)

lemma mem_preferredEncodings_of_preferenceRank? {encoding : Encoding} {rank : Nat}
    (h : preferenceRank? encoding = some rank) : encoding ∈ preferredEncodings :=
  List.mem_of_getElem? ((preferenceRank?_eq_some_iff encoding rank).mp h)

lemma exists_preferenceRank? {encoding : Encoding} (h : encoding ∈ preferredEncodings) :
    ∃ rank, preferenceRank? encoding = some rank := by
  obtain ⟨rank, hrank⟩ := List.getElem?_of_mem h
  exact ⟨rank, (preferenceRank?_eq_some_iff encoding rank).mpr hrank⟩

/-! ### The chosen map -/

/-- The map is the first one of the lowest rank: the ranks of the maps before it are greater, and
those of the maps after it are not smaller.  Maps without a rank are passed over. -/
def FirstOfLowestRank (charmaps : List Charmap) (best : Charmap) : Prop :=
  ∃ before after rank, charmaps = before ++ best :: after
    ∧ preferenceRank? best.encoding = some rank
    ∧ (∀ other ∈ before, ∀ r, preferenceRank? other.encoding = some r → rank < r)
    ∧ ∀ other ∈ after, ∀ r, preferenceRank? other.encoding = some r → rank ≤ r

/-- The maps of a list that have a rank. -/
def rankedCharmaps (charmaps : List Charmap) : List Charmap :=
  charmaps.filter fun charmap => charmap.encoding ∈ preferredEncodings

lemma mem_rankedCharmaps {charmaps : List Charmap} {charmap : Charmap} :
    charmap ∈ rankedCharmaps charmaps
      ↔ charmap ∈ charmaps ∧ charmap.encoding ∈ preferredEncodings := by
  simp [rankedCharmaps]

lemma rankedCharmaps_eq_nil_iff {charmaps : List Charmap} :
    rankedCharmaps charmaps = [] ↔ ∀ charmap ∈ charmaps, charmap.encoding ∉ preferredEncodings := by
  simp [rankedCharmaps, List.filter_eq_nil_iff]

namespace FirstOfLowestRank

variable {charmaps : List Charmap} {best : Charmap}

lemma mem_ranked (h : FirstOfLowestRank charmaps best) : best ∈ rankedCharmaps charmaps := by
  obtain ⟨before, after, rank, rfl, hrank, -, -⟩ := h
  exact mem_rankedCharmaps.mpr ⟨by simp, mem_preferredEncodings_of_preferenceRank? hrank⟩

/-- No map of the list has a smaller rank. -/
lemma le_of_mem (h : FirstOfLowestRank charmaps best) {other : Charmap} (hother : other ∈ charmaps)
    {rank r : Nat} (hrank : preferenceRank? best.encoding = some rank)
    (hr : preferenceRank? other.encoding = some r) : rank ≤ r := by
  obtain ⟨before, after, rank', rfl, hrank', hbefore, hafter⟩ := h
  obtain rfl : rank = rank' := Option.some.inj (hrank.symm.trans hrank')
  rcases List.mem_append.mp hother with hmem | hmem
  · exact (hbefore other hmem r hr).le
  · rcases List.mem_cons.mp hmem with rfl | hmem
    · exact (Option.some.inj (hrank.symm.trans hr)).le
    · exact hafter other hmem r hr

/-- It is the first map of its rank. -/
lemma find?_eq (h : FirstOfLowestRank charmaps best) {rank : Nat}
    (hrank : preferenceRank? best.encoding = some rank) :
    charmaps.find? (fun charmap => preferenceRank? charmap.encoding = some rank) = some best := by
  obtain ⟨before, after, rank', hsplit, hrank', hbefore, -⟩ := h
  obtain rfl : rank = rank' := Option.some.inj (hrank.symm.trans hrank')
  refine List.find?_eq_some_iff_append.mpr ⟨by simpa using hrank, before, after, hsplit, ?_⟩
  intro other hother
  simpa using fun hother' => lt_irrefl rank (hbefore other hother rank hother')

/-- A list has one first map of the lowest rank. -/
lemma unique {best' : Charmap} (h : FirstOfLowestRank charmaps best)
    (h' : FirstOfLowestRank charmaps best') : best = best' := by
  obtain ⟨hmem, hranked⟩ := mem_rankedCharmaps.mp h.mem_ranked
  obtain ⟨hmem', hranked'⟩ := mem_rankedCharmaps.mp h'.mem_ranked
  obtain ⟨rank, hrank⟩ := exists_preferenceRank? hranked
  obtain ⟨rank', hrank'⟩ := exists_preferenceRank? hranked'
  obtain rfl : rank = rank' :=
    le_antisymm (h.le_of_mem hmem' hrank hrank') (h'.le_of_mem hmem hrank' hrank)
  exact Option.some.inj ((h.find?_eq hrank).symm.trans (h'.find?_eq hrank'))

end FirstOfLowestRank

/-- No map is chosen exactly when none has a rank. -/
lemma bestCharmap?_eq_none_iff (charmaps : List Charmap) :
    bestCharmap? charmaps = none
      ↔ ∀ charmap ∈ charmaps, charmap.encoding ∉ preferredEncodings := by
  simp only [bestCharmap?, List.findSome?_eq_none_iff, List.find?_eq_none, decide_eq_true_eq]
  constructor
  · intro h charmap hcharmap hmem
    exact h charmap.encoding hmem charmap hcharmap rfl
  · rintro h _ hmem charmap hcharmap rfl
    exact h charmap hcharmap hmem

/-- **The chosen map** is the first one of the lowest rank. -/
theorem firstOfLowestRank_of_bestCharmap?_eq_some {charmaps : List Charmap} {best : Charmap}
    (h : bestCharmap? charmaps = some best) : FirstOfLowestRank charmaps best := by
  obtain ⟨better, encoding, worse, hsplit, hfind, hbetter⟩ := List.findSome?_eq_some_iff.mp h
  obtain ⟨hencoding, before, after, hcharmaps, hbefore⟩ := List.find?_eq_some_iff_append.mp hfind
  simp only [decide_eq_true_eq, Bool.not_eq_true', decide_eq_false_iff_not] at hencoding hbefore
  have hbest : preferenceRank? best.encoding = some better.length := by
    rw [preferenceRank?_eq_some_iff, hsplit, hencoding]
    simp
  -- a map of a lower rank would have been found for a better encoding
  have hlowest : ∀ other ∈ charmaps, ∀ r, preferenceRank? other.encoding = some r →
      better.length ≤ r := by
    intro other hother r hr
    by_contra hlt
    rw [preferenceRank?_eq_some_iff, hsplit, List.getElem?_append_left (by omega)] at hr
    have hnone := List.find?_eq_none.mp (hbetter _ (List.mem_of_getElem? hr)) other hother
    simp at hnone
  refine ⟨before, after, better.length, hcharmaps, hbest, ?_, ?_⟩
  · intro other hother r hr
    refine lt_of_le_of_ne (hlowest other (by simp [hcharmaps, hother]) r hr) ?_
    rintro rfl
    exact hbefore other hother ((eq_of_preferenceRank?_eq_some hr hbest).trans hencoding)
  · intro other hother
    exact hlowest other (by simp [hcharmaps, hother])

/-! ### Maps in another order -/

/-- What a map says: the encoding that it is made for, and the glyph of every code that it lists. -/
def Charmap.reading (charmap : Charmap) : Encoding × (Nat → Option UInt16) :=
  (charmap.encoding, charmap.listed?)

/-- The ranked maps of two lists say the same, in any order. -/
def SameReadings (charmaps others : List Charmap) : Prop :=
  ((rankedCharmaps charmaps).map Charmap.reading).Perm
    ((rankedCharmaps others).map Charmap.reading)

namespace SameReadings

variable {charmaps others : List Charmap}

lemma symm (same : SameReadings charmaps others) : SameReadings others charmaps :=
  List.Perm.symm same

lemma exists_copy (same : SameReadings charmaps others) {charmap : Charmap}
    (h : charmap ∈ rankedCharmaps charmaps) :
    ∃ copy ∈ rankedCharmaps others, copy.reading = charmap.reading :=
  List.mem_map.mp (same.mem_iff.mp (List.mem_map_of_mem h))

lemma bestCharmap?_eq_none_iff (same : SameReadings charmaps others) :
    bestCharmap? charmaps = none ↔ bestCharmap? others = none := by
  have hlength : (rankedCharmaps charmaps).length = (rankedCharmaps others).length := by
    simpa using same.length_eq
  rw [Font.bestCharmap?_eq_none_iff, Font.bestCharmap?_eq_none_iff, ← rankedCharmaps_eq_nil_iff,
    ← rankedCharmaps_eq_nil_iff, ← List.length_eq_zero_iff, hlength, List.length_eq_zero_iff]

variable {best best' : Charmap}

/-- Of two lists that say the same neither has a chosen map of smaller rank than the other. -/
lemma lowest_le (same : SameReadings charmaps others) (hbest : FirstOfLowestRank charmaps best)
    (hbest' : FirstOfLowestRank others best') {rank rank' : Nat}
    (hrank : preferenceRank? best.encoding = some rank)
    (hrank' : preferenceRank? best'.encoding = some rank') : rank' ≤ rank := by
  obtain ⟨copy, hcopy, hreading⟩ := same.exists_copy hbest.mem_ranked
  have hencoding : copy.encoding = best.encoding := congrArg Prod.fst hreading
  exact hbest'.le_of_mem (mem_rankedCharmaps.mp hcopy).1 hrank' (hencoding ▸ hrank)

/-- The chosen maps of two lists that say the same say the same, provided that the ranked maps of
one list are made for different encodings. -/
lemma reading_eq (same : SameReadings charmaps others)
    (distinct : ((rankedCharmaps charmaps).map Charmap.encoding).Nodup)
    (hbest : FirstOfLowestRank charmaps best) (hbest' : FirstOfLowestRank others best') :
    best'.reading = best.reading := by
  obtain ⟨rank, hrank⟩ := exists_preferenceRank? (mem_rankedCharmaps.mp hbest.mem_ranked).2
  obtain ⟨rank', hrank'⟩ := exists_preferenceRank? (mem_rankedCharmaps.mp hbest'.mem_ranked).2
  obtain rfl : rank = rank' :=
    le_antisymm (same.symm.lowest_le hbest' hbest hrank' hrank)
      (same.lowest_le hbest hbest' hrank hrank')
  -- the list has a copy of the other's choice, and one ranked map for its encoding
  obtain ⟨copy, hcopy, hreading⟩ := same.symm.exists_copy hbest'.mem_ranked
  have hencoding : copy.encoding = best.encoding :=
    (congrArg Prod.fst hreading).trans (eq_of_preferenceRank?_eq_some hrank' hrank)
  rw [← hreading, List.inj_on_of_nodup_map distinct hcopy hbest.mem_ranked hencoding]

/-- **The choice depends on what the ranked maps say**, and not on their order, if they are made for
different encodings. -/
theorem map_reading_bestCharmap? (same : SameReadings charmaps others)
    (distinct : ((rankedCharmaps charmaps).map Charmap.encoding).Nodup) :
    (bestCharmap? others).map Charmap.reading = (bestCharmap? charmaps).map Charmap.reading := by
  cases hbest : bestCharmap? charmaps with
  | none => rw [same.bestCharmap?_eq_none_iff.mp hbest]
  | some best =>
      cases hbest' : bestCharmap? others with
      | none => exact absurd (same.bestCharmap?_eq_none_iff.mpr hbest') (by simp [hbest])
      | some best' =>
          exact congrArg some (same.reading_eq distinct
            (firstOfLowestRank_of_bestCharmap?_eq_some hbest)
            (firstOfLowestRank_of_bestCharmap?_eq_some hbest'))

end SameReadings

namespace Face

/-! ### The character map of a face -/

/-- The character maps of a face, none if there is no table of them. -/
def maps (face : Face) : List Charmap :=
  face.charmaps.getD []

lemma bind_bestCharmap? (face : Face) :
    face.charmaps.bind bestCharmap? = bestCharmap? face.maps := by
  cases h : face.charmaps with
  | none =>
      rw [maps, h]
      rfl
  | some charmaps => rw [maps, h, Option.bind_some, Option.getD_some]

/-- What is read of a code goes by what the chosen map says. -/
lemma bestGlyph?_eq_bind_reading (face : Face) (code : Nat) :
    face.bestGlyph? code
      = ((bestCharmap? face.maps).map Charmap.reading).bind fun reading => reading.2 code := by
  rw [bestGlyph?, bind_bestCharmap?]
  cases bestCharmap? face.maps <;> rfl

/-- The character map of a face has the codes that the chosen map lists with a glyph. -/
lemma size_characterMapOf (face : Face) (order : Array String) {best : Charmap}
    (hbest : bestCharmap? face.maps = some best) :
    (face.characterMapOf order).size = (best.mapping.codes.filter fun code =>
      (best.mapping.glyph? code).isSome).toFinset.card := by
  refine size_eq_card _ _ fun code => ?_
  have hget : (face.characterMapOf order).names[code]?
      = (best.listed? code).map (nameIn order) := by
    refine (face.get?_characterMapOf order code).trans ?_
    rw [bestGlyph?, bind_bestCharmap?, hbest, Option.bind_some]
  rw [hget, Option.isSome_map, List.mem_toFinset, List.mem_filter, Charmap.listed?]
  by_cases hmem : code ∈ best.mapping.codes <;> simp [hmem]

/-- **The character map of a face.**  It is empty if no map of the face has a rank.  Otherwise it
is read from the first map of the lowest rank, and gives a name to the codes that this map lists
with a glyph: the name of the glyph in the order, or its fallback name beyond the order.  If the
ranked maps are made for different encodings, all faces whose ranked maps say the same in any order
have the same character map. -/
theorem characterMap_of_lowest_rank (ε : Type) (face : Face) (order : Array String) :
    ∃ map, (face.characterMap order : Logged ε CharacterMap).outcome = .ok map
      ∧ ((map = {} ∧ ∀ charmap ∈ face.maps, charmap.encoding ∉ preferredEncodings)
        ∨ ∃ best, FirstOfLowestRank face.maps best
          ∧ (∀ code name, map.get? code = some name
            ↔ code ∈ best.mapping.codes ∧ ∃ glyph, best.mapping.glyph? code = some glyph
              ∧ name = order[glyph.toNat]?.getD (fallbackName glyph.toNat))
          ∧ map.size = (best.mapping.codes.filter fun code =>
              (best.mapping.glyph? code).isSome).toFinset.card)
      ∧ ∀ other : Face, ((rankedCharmaps face.maps).map Charmap.encoding).Nodup →
          SameReadings face.maps other.maps →
          ∃ map', (other.characterMap order : Logged ε CharacterMap).outcome = .ok map'
            ∧ map'.names.toList = map.names.toList := by
  refine ⟨_, face.outcome_characterMap order, ?_, ?_⟩
  · cases hbest : bestCharmap? face.maps with
    | none =>
        refine Or.inl ⟨?_, (bestCharmap?_eq_none_iff _).mp hbest⟩
        rw [characterMapOf, bind_bestCharmap?, hbest]
    | some best =>
        refine Or.inr ⟨best, firstOfLowestRank_of_bestCharmap?_eq_some hbest, ?_,
          face.size_characterMapOf order hbest⟩
        intro code name
        rw [get?_characterMapOf, bestGlyph?, bind_bestCharmap?, hbest, Option.bind_some,
          Charmap.listed?]
        by_cases hmem : code ∈ best.mapping.codes
        · simp [hmem, nameIn, eq_comm]
        · simp [hmem]
  · intro other distinct same
    refine ⟨_, other.outcome_characterMap order, Std.TreeMap.equiv_iff_toList_eq.mp ?_⟩
    refine Std.TreeMap.Equiv.of_forall_constGet?_eq fun code => ?_
    have hglyph : other.bestGlyph? code = face.bestGlyph? code := by
      rw [bestGlyph?_eq_bind_reading, bestGlyph?_eq_bind_reading,
        same.map_reading_bestCharmap? distinct]
    calc (other.characterMapOf order).get? code
        = (other.bestGlyph? code).map (nameIn order) := other.get?_characterMapOf order code
      _ = (face.bestGlyph? code).map (nameIn order) := by rw [hglyph]
      _ = (face.characterMapOf order).get? code := (face.get?_characterMapOf order code).symm

/-- A Windows map of two codes; the glyph of the second has a large number. -/
def windowsMap : Charmap where
  encoding := ⟨3, 1⟩
  mapping := .run { first := 65, glyphs := #[1, 7], bound := 65536 }

/-- A face with two maps for Unicode, the second of which ranks lower, behind a map that is not for
Unicode. -/
def scatteredFace : Face where
  unitsPerEm := 1000
  glyphCount := 3
  advances := none
  storedNames := none
  charmaps := some [
    { encoding := ⟨1, 0⟩, mapping := .run { first := 65, glyphs := #[1], bound := 65536 } },
    { encoding := ⟨0, 3⟩, mapping := .run { first := 65, glyphs := #[2], bound := 65536 } },
    windowsMap]

/-- The same two maps for Unicode in the other order, around a map of an encoding without a rank. -/
def gatheredFace : Face where
  unitsPerEm := 2048
  glyphCount := 8
  advances := none
  storedNames := none
  charmaps := some [
    windowsMap,
    { encoding := ⟨0, 5⟩, mapping := .unsupported },
    { encoding := ⟨0, 3⟩, mapping := .run { first := 65, glyphs := #[2], bound := 65536 } }]

theorem characterMap_of_lowest_rank_scatteredFace :
    ((rankedCharmaps scatteredFace.maps).map Charmap.encoding).Nodup
      ∧ SameReadings scatteredFace.maps gatheredFace.maps
      ∧ FirstOfLowestRank scatteredFace.maps windowsMap
      ∧ ∃ map, (scatteredFace.characterMap #[".notdef", "x"]
            : Logged GlyphError CharacterMap).outcome = .ok map
        ∧ map.get? 65 = some "x" ∧ map.get? 66 = some "glyph00007" ∧ map.size = 2
        ∧ ∃ map', (gatheredFace.characterMap #[".notdef", "x"]
            : Logged GlyphError CharacterMap).outcome = .ok map'
          ∧ map'.names.toList = map.names.toList := by
  have distinct : ((rankedCharmaps scatteredFace.maps).map Charmap.encoding).Nodup := by decide
  have same : SameReadings scatteredFace.maps gatheredFace.maps := List.Perm.swap ..
  have chosen : FirstOfLowestRank scatteredFace.maps windowsMap :=
    firstOfLowestRank_of_bestCharmap?_eq_some (by decide)
  obtain ⟨map, hmap, hcases, hsame⟩ :=
    characterMap_of_lowest_rank GlyphError scatteredFace #[".notdef", "x"]
  rcases hcases with ⟨-, hnone⟩ | ⟨best, hbest, hentries, hsize⟩
  · obtain ⟨hmem, hranked⟩ := mem_rankedCharmaps.mp chosen.mem_ranked
    exact absurd hranked (hnone windowsMap hmem)
  · obtain rfl : best = windowsMap := hbest.unique chosen
    refine ⟨distinct, same, chosen, map, hmap, ?_, ?_, ?_, hsame gatheredFace distinct same⟩
    · exact (hentries 65 "x").mpr ⟨by decide, 1, by decide, rfl⟩
    · exact (hentries 66 "glyph00007").mpr ⟨by decide, 7, by decide, by decide⟩
    · rw [hsize]
      decide

end Face

end TicksAndWidths.Font
