import Mathlib.Tactic
import TicksAndWidths.Font.CharacterMap
import TicksAndWidths.Font.GlyphSet
import TicksAndWidths.Proofs.Font.Names

/-!
What the character map and the glyph set of a face hold.

* `get?_foldl_insert`: a store that is filled in turn answers with the last entry of a key.
* `Charmap.lookup_named`, `Face.get?_characterMapOf`: a code has the name of the glyph that the best
  map gives it, provided that map lists the code (`Face.bestGlyph?`).
* `Face.get?_glyphSetOf_eq_some_iff`: **a name has the metrics of the last glyph** that bears it and
  has an advance width (`Face.LastNamed`), for any naming of the glyphs.
* `Face.glyphSet_of_any_order`: the same as a statement on the greatest of the bearers of a name
  (`Face.bearers`), and the number of names that have metrics.
-/

namespace TicksAndWidths.Font

/-! ### Stores that are filled in turn -/

/-- A store in which an insertion shows at its key and nowhere else answers with the last entry of a
key, and with what it held before if there is none. -/
theorem get?_foldl_insert {σ α β : Type} [DecidableEq α] (get? : σ → α → Option β)
    (insert : σ → α → β → σ)
    (hinsert : ∀ s k v j, get? (insert s k v) j = if k = j then some v else get? s j)
    (pairs : List (α × β)) (s : σ) (k : α) :
    get? (pairs.foldl (fun s pair => insert s pair.1 pair.2) s) k
      = (pairs.reverse.lookup k).or (get? s k) := by
  induction pairs generalizing s with
  | nil => simp
  | cons pair rest ih =>
      obtain ⟨key, value⟩ := pair
      rw [List.foldl_cons, ih, hinsert, List.reverse_cons, List.lookup_append, Option.or_assoc]
      by_cases h : key = k
      · simp [h]
      · simp [List.lookup_cons, h, beq_eq_false_iff_ne.mpr (Ne.symm h)]

/-- A map that is made from pairs answers with the last pair of a code point. -/
lemma CharacterMap.get?_ofList (pairs : List (Nat × String)) (codePoint : Nat) :
    (CharacterMap.ofList pairs).get? codePoint = pairs.reverse.lookup codePoint := by
  have h := get?_foldl_insert CharacterMap.get? CharacterMap.insert
    (fun map codePoint name k => CharacterMap.get?_insert map codePoint k name) pairs {} codePoint
  simpa [CharacterMap.ofList, CharacterMap.get?] using h

/-- A set that is made from pairs answers with the last pair of a name. -/
lemma GlyphSet.get?_ofList (pairs : List (String × GlyphMetrics)) (name : String) :
    (GlyphSet.ofList pairs).get? name = pairs.reverse.lookup name := by
  have h := get?_foldl_insert GlyphSet.get? GlyphSet.insert
    (fun set name metrics k => GlyphSet.get?_insert set name k metrics) pairs {} name
  simpa [GlyphSet.ofList, GlyphSet.get?] using h

/-- A finite map has as many entries as there are keys that have a value. -/
lemma size_eq_card {α β : Type} [Ord α] [Std.TransOrd α] [Std.LawfulEqOrd α] [DecidableEq α]
    (map : Std.TreeMap α β) (keys : Finset α) (h : ∀ k, k ∈ keys ↔ map[k]?.isSome) :
    map.size = keys.card := by
  have hkeys : map.keys.toFinset = keys := by
    ext k
    rw [List.mem_toFinset, Std.TreeMap.mem_keys, h, Std.TreeMap.isSome_getElem?_iff_mem]
  rw [← hkeys, List.toFinset_card_of_nodup Std.TreeMap.nodup_keys, Std.TreeMap.length_keys]

/-! ### The character map of a face -/

/-- A table of values, taken at the keys of a list, answers at the keys of the list alone. -/
lemma lookup_filterMap_graph {α β γ : Type} [DecidableEq α] (f : α → Option β) (g : β → γ)
    (keys : List α) (k : α) :
    (keys.filterMap fun key => (f key).map fun b => (key, g b)).lookup k
      = if k ∈ keys then (f k).map g else none := by
  induction keys with
  | nil => simp
  | cons key rest ih =>
      by_cases hk : k = key
      · subst hk
        cases hf : f k with
        | none => simp [hf, ih]
        | some b => simp [hf]
      · cases hf : f key with
        | none => simp [hf, ih, hk]
        | some b => simp [hf, ih, hk, List.lookup_cons, beq_eq_false_iff_ne.mpr hk]

/-- The glyph of a code, provided the map lists the code. -/
def Charmap.listed? (charmap : Charmap) (code : Nat) : Option UInt16 :=
  if code ∈ charmap.mapping.codes then charmap.mapping.glyph? code else none

/-- The name of a glyph in an order of names, or its fallback name beyond the order. -/
def nameIn (order : Array String) (glyph : UInt16) : String :=
  order[glyph.toNat]?.getD (fallbackName glyph.toNat)

/-- The named codes of a map are the codes that it lists with a glyph. -/
lemma Charmap.lookup_named (charmap : Charmap) (order : Array String) (code : Nat) :
    (charmap.named order).reverse.lookup code = (charmap.listed? code).map (nameIn order) := by
  have h := lookup_filterMap_graph charmap.mapping.glyph? (nameIn order)
    charmap.mapping.codes.reverse code
  rw [List.filterMap_reverse] at h
  refine h.trans ?_
  simp only [List.mem_reverse, Charmap.listed?]
  split <;> rfl

namespace Face

variable (face : Face)

/-- The glyph that the best map of a face gives to a code that it lists. -/
def bestGlyph? (code : Nat) : Option UInt16 :=
  (face.charmaps.bind bestCharmap?).bind fun charmap => charmap.listed? code

/-- The character map of a face, apart from what is logged. -/
def characterMapOf (order : Array String) : CharacterMap :=
  match face.charmaps.bind bestCharmap? with
  | none => {}
  | some charmap => .ofList (charmap.named order)

lemma outcome_characterMap {ε : Type} (order : Array String) :
    (face.characterMap order : Logged ε CharacterMap).outcome
      = .ok (face.characterMapOf order) := by
  cases h : face.charmaps with
  | none => simp [characterMap, characterMapOf, h]
  | some charmaps =>
      cases hbest : bestCharmap? charmaps with
      | none => simp [characterMap, characterMapOf, h, hbest]
      | some charmap => simp [characterMap, characterMapOf, h, hbest]

/-- A code has the name of the glyph that the best map gives it. -/
theorem get?_characterMapOf (order : Array String) (code : Nat) :
    (face.characterMapOf order).get? code = (face.bestGlyph? code).map (nameIn order) := by
  rw [characterMapOf, bestGlyph?]
  cases face.charmaps.bind bestCharmap? with
  | none => simp [CharacterMap.get?]
  | some charmap =>
      rw [CharacterMap.get?_ofList, Charmap.lookup_named]
      rfl

/-! ### The glyph set of a face -/

/-- The glyph set of a face, apart from what is logged. -/
def glyphSetOf (order : List String) : GlyphSet :=
  .ofList (face.namedMetrics order)

lemma outcome_glyphSet {ε : Type} (order : List String) :
    (face.glyphSet order : Logged ε GlyphSet).outcome = .ok (face.glyphSetOf order) := by
  simp [glyphSet, glyphSetOf]

/-- The metrics of a glyph under its name in an order, if it has both. -/
def namedMetric? (order : List String) (glyph : Nat) : Option (String × GlyphMetrics) := do
  let name ← order[glyph]?
  let width ← face.advance? glyph
  return (name, { glyph := UInt16.ofNat glyph, width })

/-- Numbering a list from `start` on and going through the pairs is going through the numbers. -/
lemma filterMap_zip_range' {α β : Type} (f : Nat → α → Option β) (start count : Nat) (l : List α) :
    ((List.range' start count).zip l).filterMap (fun pair => f pair.1 pair.2)
      = (List.range' start count).filterMap fun i => l[i - start]?.bind (f i) := by
  induction l generalizing start count with
  | nil => simp
  | cons a rest ih =>
      cases count with
      | zero => simp
      | succ count =>
          have hshift : (List.range' (start + 1) count).filterMap
                (fun i => (a :: rest)[i - start]?.bind (f i))
              = (List.range' (start + 1) count).filterMap
                fun i => rest[i - (start + 1)]?.bind (f i) := by
            refine List.filterMap_congr ?_
            intro i hi
            have hle := (List.mem_range'_1.mp hi).1
            rw [show i - start = (i - (start + 1)) + 1 from by omega, List.getElem?_cons_succ]
          rw [List.range'_succ, List.zip_cons_cons, List.filterMap_cons, List.filterMap_cons, ih,
            hshift]
          simp

lemma namedMetrics_eq (order : List String) :
    face.namedMetrics order
      = (List.range face.glyphCount.toNat).filterMap (face.namedMetric? order) := by
  have h := filterMap_zip_range' (fun glyph name => (face.advance? glyph).map fun width =>
    (name, ({ glyph := UInt16.ofNat glyph, width } : GlyphMetrics))) 0 face.glyphCount.toNat order
  rw [← List.range_eq_range'] at h
  rw [namedMetrics, h]
  refine List.filterMap_congr fun glyph _ => ?_
  simp only [namedMetric?, Nat.sub_zero]
  cases order[glyph]? <;> cases face.advance? glyph <;> rfl

/-- The last entry of a key in a list that is made by going through numbers comes from the greatest
number that has an entry of that key. -/
lemma lookup_reverse_filterMap_range {α β : Type} [DecidableEq α] (f : Nat → Option (α × β))
    (n : Nat) (k : α) (b : β) :
    ((List.range n).filterMap f).reverse.lookup k = some b
      ↔ ∃ i < n, f i = some (k, b) ∧ ∀ j, i < j → j < n → ∀ c, f j ≠ some (k, c) := by
  induction n with
  | zero => simp
  | succ n ih =>
      rw [List.range_succ, List.filterMap_append, List.reverse_append, List.lookup_append]
      by_cases hn : ∃ c, f n = some (k, c)
      · obtain ⟨c, hc⟩ := hn
        have hfirst : ([n].filterMap f).reverse.lookup k = some c := by simp [hc]
        rw [hfirst, Option.some_or]
        constructor
        · rintro ⟨rfl⟩
          exact ⟨n, Nat.lt_succ_self n, hc, fun j h₁ h₂ => absurd h₁ (by omega)⟩
        · rintro ⟨i, hi, hfi, hlast⟩
          rcases Nat.lt_succ_iff_lt_or_eq.mp hi with hlt | rfl
          · exact absurd hc (hlast n hlt (Nat.lt_succ_self n) c)
          · rw [hc] at hfi
            simpa using hfi
      · have hfirst : ([n].filterMap f).reverse.lookup k = none := by
          cases hfn : f n with
          | none => simp [hfn]
          | some pair =>
              have hne : k ≠ pair.1 := fun h => hn ⟨pair.2, by rw [hfn, h]⟩
              simp [hfn, hne]
        rw [hfirst, Option.none_or, ih]
        constructor
        · rintro ⟨i, hi, hfi, hlast⟩
          refine ⟨i, by omega, hfi, fun j h₁ h₂ c hc => ?_⟩
          rcases Nat.lt_succ_iff_lt_or_eq.mp h₂ with hlt | rfl
          · exact hlast j h₁ hlt c hc
          · exact hn ⟨c, hc⟩
        · rintro ⟨i, hi, hfi, hlast⟩
          rcases Nat.lt_succ_iff_lt_or_eq.mp hi with hlt | rfl
          · exact ⟨i, hlt, hfi, fun j h₁ h₂ => hlast j h₁ (by omega)⟩
          · exact absurd ⟨b, hfi⟩ hn

/-- The glyph is the last one of the face that bears the name in an order and has an advance
width. -/
structure LastNamed (order : List String) (name : String) (glyph : Nat) : Prop where
  lt_glyphCount : glyph < face.glyphCount.toNat
  named : order[glyph]? = some name
  measured : (face.advance? glyph).isSome
  last : ∀ later, glyph < later → later < face.glyphCount.toNat → order[later]? = some name →
    face.advance? later = none

lemma namedMetric?_eq_some_iff (order : List String) (glyph : Nat) (name : String)
    (metrics : GlyphMetrics) :
    face.namedMetric? order glyph = some (name, metrics)
      ↔ order[glyph]? = some name ∧ face.advance? glyph = some metrics.width
        ∧ metrics.glyph = UInt16.ofNat glyph := by
  cases metrics
  simp only [namedMetric?, bind, Option.bind_eq_some_iff, pure, Option.some.injEq, Prod.mk.injEq,
    GlyphMetrics.mk.injEq]
  constructor
  · rintro ⟨_, hname, _, hwidth, rfl, rfl, rfl⟩
    exact ⟨hname, hwidth, rfl⟩
  · rintro ⟨hname, hwidth, rfl⟩
    exact ⟨_, hname, _, hwidth, rfl, rfl, rfl⟩

/-- **A name has the metrics of the last glyph** that bears it and has an advance width. -/
theorem get?_glyphSetOf_eq_some_iff (order : List String) (name : String) (metrics : GlyphMetrics) :
    (face.glyphSetOf order).get? name = some metrics
      ↔ face.LastNamed order name metrics.glyph.toNat
        ∧ face.advance? metrics.glyph.toNat = some metrics.width := by
  have hcount : face.glyphCount.toNat < 65536 := face.glyphCount.toNat_lt
  rw [glyphSetOf, GlyphSet.get?_ofList, namedMetrics_eq, lookup_reverse_filterMap_range]
  constructor
  · rintro ⟨glyph, hlt, hglyph, hlast⟩
    obtain ⟨hname, hwidth, heq⟩ :=
      (face.namedMetric?_eq_some_iff order glyph name metrics).mp hglyph
    have hnat : metrics.glyph.toNat = glyph := by
      rw [heq, UInt16.toNat_ofNat_of_lt' (show glyph < 65536 by omega)]
    rw [hnat]
    refine ⟨⟨hlt, hname, by rw [hwidth]; rfl, ?_⟩, hwidth⟩
    intro later h₁ h₂ hlater
    by_contra hne
    obtain ⟨width, hw⟩ := Option.ne_none_iff_exists'.mp hne
    exact hlast later h₁ h₂ ⟨UInt16.ofNat later, width⟩
      ((face.namedMetric?_eq_some_iff order later name _).mpr ⟨hlater, hw, rfl⟩)
  · rintro ⟨hglyph, hwidth⟩
    refine ⟨metrics.glyph.toNat, hglyph.lt_glyphCount,
      (face.namedMetric?_eq_some_iff order _ name metrics).mpr ⟨hglyph.named, hwidth, by simp⟩, ?_⟩
    intro later h₁ h₂ c hc
    obtain ⟨hlater, hw, -⟩ := (face.namedMetric?_eq_some_iff order later name c).mp hc
    rw [hglyph.last later h₁ h₂ hlater] at hw
    cases hw

/-- A name that some glyph with an advance width bears has metrics. -/
lemma exists_get?_glyphSetOf {order : List String} {name : String} {glyph : Nat}
    (hlt : glyph < face.glyphCount.toNat) (hname : order[glyph]? = some name)
    (hmeasured : (face.advance? glyph).isSome) :
    ∃ metrics, (face.glyphSetOf order).get? name = some metrics := by
  obtain ⟨width, hwidth⟩ := Option.isSome_iff_exists.mp hmeasured
  by_contra hnone
  have hmem : (name, (⟨UInt16.ofNat glyph, width⟩ : GlyphMetrics))
      ∈ (face.namedMetrics order).reverse := by
    rw [List.mem_reverse, namedMetrics_eq, List.mem_filterMap]
    exact ⟨glyph, List.mem_range.mpr hlt,
      (face.namedMetric?_eq_some_iff order glyph name _).mpr ⟨hname, hwidth, rfl⟩⟩
  rw [glyphSetOf, GlyphSet.get?_ofList, ← Option.isSome_iff_exists, List.lookup_isSome_iff] at hnone
  exact hnone ⟨_, hmem, beq_self_eq_true name⟩

/-- The glyphs of the face that bear a name in an order and have an advance width. -/
def bearers (order : List String) (name : String) : Set Nat :=
  {glyph | glyph < face.glyphCount.toNat ∧ order[glyph]? = some name
    ∧ (face.advance? glyph).isSome}

lemma mem_bearers (order : List String) (name : String) (glyph : Nat) :
    glyph ∈ face.bearers order name ↔ glyph < face.glyphCount.toNat ∧ order[glyph]? = some name
      ∧ (face.advance? glyph).isSome := Iff.rfl

/-- Under the names of its own glyphs the bearers of a name are the measured glyphs called so. -/
lemma mem_bearers_glyphNames (name : String) (glyph : Nat) :
    glyph ∈ face.bearers face.glyphNames name
      ↔ glyph < face.glyphCount.toNat ∧ face.glyphName glyph = name
        ∧ (face.advance? glyph).isSome := by
  rw [mem_bearers]
  refine and_congr_right fun hlt => ?_
  rw [face.getElem?_glyphNames hlt, Option.some.injEq]

/-- The last glyph of a name is the greatest of its bearers. -/
lemma lastNamed_iff_isGreatest (order : List String) (name : String) (glyph : Nat) :
    face.LastNamed order name glyph ↔ IsGreatest (face.bearers order name) glyph := by
  constructor
  · intro h
    refine ⟨⟨h.lt_glyphCount, h.named, h.measured⟩, ?_⟩
    rintro other ⟨hlt, hnamed, hmeasured⟩
    by_contra hgt
    rw [h.last other (by omega) hlt hnamed] at hmeasured
    cases hmeasured
  · rintro ⟨⟨hlt, hnamed, hmeasured⟩, hgreatest⟩
    refine ⟨hlt, hnamed, hmeasured, fun later hgt hlater hname => ?_⟩
    by_contra hne
    have hle := hgreatest ⟨hlater, hname, Option.isSome_iff_ne_none.mpr hne⟩
    omega

/-- A name has metrics exactly when it has a bearer. -/
lemma isSome_get?_glyphSetOf_iff (order : List String) (name : String) :
    ((face.glyphSetOf order).get? name).isSome ↔ (face.bearers order name).Nonempty := by
  constructor
  · intro h
    obtain ⟨metrics, hmetrics⟩ := Option.isSome_iff_exists.mp h
    obtain ⟨hlast, -⟩ := (face.get?_glyphSetOf_eq_some_iff order name metrics).mp hmetrics
    exact ⟨_, hlast.lt_glyphCount, hlast.named, hlast.measured⟩
  · rintro ⟨glyph, hlt, hnamed, hmeasured⟩
    exact Option.isSome_iff_exists.mpr (face.exists_get?_glyphSetOf hlt hnamed hmeasured)

/-- The names in an order of the glyphs that have an advance width. -/
def measuredNames (order : List String) : List String :=
  ((List.range face.glyphCount.toNat).filter fun glyph => (face.advance? glyph).isSome).filterMap
    fun glyph => order[glyph]?

lemma mem_measuredNames (order : List String) (name : String) :
    name ∈ face.measuredNames order ↔ (face.bearers order name).Nonempty := by
  simp only [measuredNames, List.mem_filterMap, List.mem_filter, List.mem_range, Set.Nonempty,
    mem_bearers]
  exact exists_congr fun glyph => by tauto

lemma size_glyphSetOf (order : List String) :
    (face.glyphSetOf order).size = (face.measuredNames order).toFinset.card := by
  refine size_eq_card _ _ fun name => ?_
  rw [List.mem_toFinset, mem_measuredNames, ← isSome_get?_glyphSetOf_iff]
  rfl

/-- **The glyph set of a face under any names**, be there fewer or more names than glyphs, repeated
or not: a name has the metrics of its greatest bearer, and none if it has no bearer.  There are as
many entries as the measured glyphs have different names. -/
theorem glyphSet_of_any_order (ε : Type) (order : List String) :
    ∃ set, (face.glyphSet order : Logged ε GlyphSet).outcome = .ok set
      ∧ (∀ name metrics, set.get? name = some metrics
        ↔ IsGreatest (face.bearers order name) metrics.glyph.toNat
          ∧ face.advance? metrics.glyph.toNat = some metrics.width)
      ∧ (∀ name, set.get? name = none ↔ face.bearers order name = ∅)
      ∧ set.size = (face.measuredNames order).toFinset.card := by
  refine ⟨_, face.outcome_glyphSet order, ?_, ?_, face.size_glyphSetOf order⟩
  · intro name metrics
    rw [face.get?_glyphSetOf_eq_some_iff, lastNamed_iff_isGreatest]
  · intro name
    rw [← Set.not_nonempty_iff_eq_empty, ← isSome_get?_glyphSetOf_iff,
      Option.not_isSome_iff_eq_none]

end Face

end TicksAndWidths.Font
