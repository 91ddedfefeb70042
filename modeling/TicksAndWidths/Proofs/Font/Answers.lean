import Mathlib.Tactic
import TicksAndWidths.Font.Measure
import TicksAndWidths.Proofs.Font.Faces
import TicksAndWidths.Proofs.Font.Stores

/-!
What a font answers for a character.

The face of a font answers by its two stores, and a file that was opened as the face that is read
from it again.

* `Face.lookup_of_named`, `Face.Sound.lookup_of_unnamed`, `Face.Sound.lookup_of_unmeasured`: the
  answer goes by the name under which a character's glyph is sought, by `.notdef`, or fails.
* `lookup_of_present_glyph`: a character whose glyph exists is measured as that glyph exactly when
  no later glyph has come to bear its name (`Face.Clash`).
* `lookup_of_absent_glyph`: a character whose glyph does not exist is measured as `.notdef` exactly
  when no glyph is stored under the fallback name of the missing one.
* `lookup_total`: **the failures and the fallbacks** of a font: all characters fail or none, and
  `.notdef` is the first glyph whatever the stored names.
-/

namespace TicksAndWidths.Font

/-! ### Resolving through the two stores -/

/-- A character is answered by its own glyph, then by `.notdef`, and then not at all. -/
lemma outcome_resolve (map : CharacterMap) (set : GlyphSet) (ch : Char) :
    (resolve map set ch).outcome
      = ((directHit? map set ch).or (fallbackHit? set ch)).elim (.error .noNotdefGlyph) .ok := by
  rw [resolve]
  cases directHit? map set ch with
  | some hit => rfl
  | none => cases fallbackHit? set ch <;> rfl

namespace Face

variable {face : Face}

lemma outcome_mapAndGlyphs {ε : Type} (face : Face) :
    (face.mapAndGlyphs : Logged ε _).outcome
      = .ok (face.characterMapOf face.glyphNames.toArray, face.glyphSetOf face.glyphNames) := by
  simp [mapAndGlyphs, outcome_characterMap, outcome_glyphSet]

/-- Measuring is resolving through the two stores of a face, both under the names of its glyphs. -/
lemma outcome_lookup (face : Face) (ch : Char) :
    (face.lookup ch).outcome
      = (resolve (face.characterMapOf face.glyphNames.toArray) (face.glyphSetOf face.glyphNames)
          ch).outcome := by
  simp only [lookup, Logged.outcome_bind, outcome_mapAndGlyphs, Logged.ok_bind,
    Logged.outcome_pure, Logged.outcome_write]
  cases (resolve (face.characterMapOf face.glyphNames.toArray) (face.glyphSetOf face.glyphNames)
    ch).outcome <;> rfl

/-- The name under which a face looks for the glyph of a code. -/
def soughtName? (face : Face) (code : Nat) : Option String :=
  (face.bestGlyph? code).map (nameIn face.glyphNames.toArray)

/-- A glyph of the face is sought under its own name. -/
lemma nameIn_glyphNames_of_lt {glyph : UInt16} (h : glyph < face.glyphCount) :
    nameIn face.glyphNames.toArray glyph = face.glyphName glyph.toNat := by
  rw [nameIn, List.getElem?_toArray, face.getElem?_glyphNames (UInt16.lt_iff_toNat_lt.mp h),
    Option.getD_some]

/-- A glyph beyond the face is sought under its fallback name. -/
lemma nameIn_glyphNames_of_le {glyph : UInt16} (h : face.glyphCount ≤ glyph) :
    nameIn face.glyphNames.toArray glyph = fallbackName glyph.toNat := by
  have hlen : face.glyphNames.length ≤ glyph.toNat := by
    rw [length_glyphNames]
    exact UInt16.le_iff_toNat_le.mp h
  rw [nameIn, List.getElem?_toArray, List.getElem?_eq_none hlen, Option.getD_none]

lemma soughtName?_of_lt {code : Nat} {glyph : UInt16} (hcovered : face.bestGlyph? code = some glyph)
    (h : glyph < face.glyphCount) : face.soughtName? code = some (face.glyphName glyph.toNat) := by
  rw [soughtName?, hcovered, Option.map_some, nameIn_glyphNames_of_lt h]

lemma soughtName?_of_le {code : Nat} {glyph : UInt16} (hcovered : face.bestGlyph? code = some glyph)
    (h : face.glyphCount ≤ glyph) : face.soughtName? code = some (fallbackName glyph.toNat) := by
  rw [soughtName?, hcovered, Option.map_some, nameIn_glyphNames_of_le h]

/-- A sought name that has metrics is the answer. -/
lemma lookup_of_named {ch : Char} {name : String} {metrics : GlyphMetrics}
    (hname : face.soughtName? ch.toNat = some name)
    (hmetrics : (face.glyphSetOf face.glyphNames).get? name = some metrics) :
    (face.lookup ch).outcome = .ok { character := ch, name, glyph := metrics.glyph,
                                     width := metrics.width, fallback := false } := by
  have hdirect : directHit? (face.characterMapOf face.glyphNames.toArray)
      (face.glyphSetOf face.glyphNames) ch
        = some { character := ch, name, glyph := metrics.glyph, width := metrics.width,
                 fallback := false } := by
    rw [directHit?, get?_characterMapOf, ← soughtName?, hname]
    simp [hmetrics]
  rw [outcome_lookup, outcome_resolve, hdirect]
  rfl

/-- Without metrics for the sought name `.notdef` answers. -/
lemma outcome_lookup_of_unnamed {ch : Char}
    (hnone : ∀ name, face.soughtName? ch.toNat = some name →
      (face.glyphSetOf face.glyphNames).get? name = none) :
    (face.lookup ch).outcome
      = (fallbackHit? (face.glyphSetOf face.glyphNames) ch).elim (.error .noNotdefGlyph) .ok := by
  have hdirect : directHit? (face.characterMapOf face.glyphNames.toArray)
      (face.glyphSetOf face.glyphNames) ch = none := by
    rw [directHit?, get?_characterMapOf, ← soughtName?]
    cases hname : face.soughtName? ch.toNat with
    | none => rfl
    | some name => simp [hnone name hname]
  rw [outcome_lookup, outcome_resolve, hdirect, Option.none_or]

/-! ### `.notdef` -/

/-- The answer of `.notdef` when the first glyph has a width. -/
def notdefHit (ch : Char) (width : UInt16) : Hit :=
  { character := ch, name := notdefName, glyph := 0, width, fallback := true }

/-- **`.notdef` is the first glyph**, whatever the other glyphs are called. -/
lemma Sound.get?_notdefName (sound : face.Sound) {width : UInt16}
    (hwidth : face.advance? 0 = some width) :
    (face.glyphSetOf face.glyphNames).get? notdefName = some { glyph := 0, width } := by
  rw [get?_glyphSetOf_eq_some_iff]
  refine ⟨⟨sound.glyphCount_pos, ?_, by simp [hwidth], fun later hpos hlt hname => ?_⟩, hwidth⟩
  · simpa using face.getElem?_glyphNames sound.glyphCount_pos
  · rw [face.getElem?_glyphNames hlt, Option.some.injEq, glyphName_eq_notdefName_iff] at hname
    subst hname
    exact absurd hpos (by simp)

/-- Without metrics for the sought name the first glyph answers. -/
lemma Sound.lookup_of_unnamed (sound : face.Sound) {ch : Char} {width : UInt16}
    (hwidth : face.advance? 0 = some width)
    (hnone : ∀ name, face.soughtName? ch.toNat = some name →
      (face.glyphSetOf face.glyphNames).get? name = none) :
    (face.lookup ch).outcome = .ok (notdefHit ch width) := by
  rw [outcome_lookup_of_unnamed hnone, fallbackHit?, sound.get?_notdefName hwidth]
  rfl

/-- If the first glyph has no width no name has metrics. -/
lemma Sound.get?_of_unmeasured (sound : face.Sound) (h : face.advance? 0 = none) (name : String) :
    (face.glyphSetOf face.glyphNames).get? name = none := by
  by_contra hne
  obtain ⟨metrics, hmetrics⟩ := Option.ne_none_iff_exists'.mp hne
  obtain ⟨hlast, -⟩ := (face.get?_glyphSetOf_eq_some_iff _ _ _).mp hmetrics
  have hmeasured := hlast.measured
  rw [sound.isSome_advance? _ hlast.lt_glyphCount, h] at hmeasured
  cases hmeasured

/-- If the first glyph has no width no character is measured. -/
lemma Sound.lookup_of_unmeasured (sound : face.Sound) (h : face.advance? 0 = none) (ch : Char) :
    (face.lookup ch).outcome = .error .noNotdefGlyph := by
  rw [outcome_lookup_of_unnamed fun name _ => sound.get?_of_unmeasured h name, fallbackHit?,
    sound.get?_of_unmeasured h]
  rfl

/-- A face whose first glyph has a width answers directly or by `.notdef`. -/
lemma Sound.lookup_cases (sound : face.Sound) {width : UInt16}
    (hwidth : face.advance? 0 = some width) (ch : Char) : ∃ hit, (face.lookup ch).outcome = .ok hit
      ∧ (hit.fallback = false ∨ hit = notdefHit ch width) := by
  by_cases hnone : ∀ name, face.soughtName? ch.toNat = some name →
      (face.glyphSetOf face.glyphNames).get? name = none
  · exact ⟨_, sound.lookup_of_unnamed hwidth hnone, Or.inr rfl⟩
  · push Not at hnone
    obtain ⟨name, hname, hsome⟩ := hnone
    obtain ⟨metrics, hmetrics⟩ := Option.ne_none_iff_exists'.mp hsome
    exact ⟨_, lookup_of_named hname hmetrics, Or.inl rfl⟩

/-- A character fails exactly when the first glyph has no width, and with one error alone. -/
lemma Sound.lookup_eq_error_iff (sound : face.Sound) (ch : Char) (e : GlyphError) :
    (face.lookup ch).outcome = .error e ↔ face.advance? 0 = none ∧ e = .noNotdefGlyph := by
  cases hwidth : face.advance? 0 with
  | none => simp [sound.lookup_of_unmeasured hwidth, eq_comm]
  | some width =>
      obtain ⟨hit, hhit, -⟩ := sound.lookup_cases hwidth ch
      simp [hhit]

/-- A character that is not covered is measured as the first glyph. -/
lemma Sound.lookup_of_uncovered (sound : face.Sound) {width : UInt16}
    (hwidth : face.advance? 0 = some width) {ch : Char}
    (huncovered : face.bestGlyph? ch.toNat = none) :
    (face.lookup ch).outcome = .ok (notdefHit ch width) := by
  refine sound.lookup_of_unnamed hwidth ?_
  intro name hname
  rw [soughtName?, huncovered] at hname
  cases hname

/-! ### Glyphs that exist -/

/-- The last glyph of a name bears it. -/
lemma LastNamed.glyphName_eq {name : String} {glyph : Nat}
    (h : face.LastNamed face.glyphNames name glyph) : face.glyphName glyph = name := by
  have hnamed := h.named
  rwa [face.getElem?_glyphNames h.lt_glyphCount, Option.some.injEq] at hnamed

/-- The name of a glyph that exists has the metrics of the last glyph of that name. -/
lemma Sound.exists_lastNamed (sound : face.Sound) {glyph : Nat}
    (hmeasured : (face.advance? 0).isSome) (hlt : glyph < face.glyphCount.toNat) :
    ∃ metrics, (face.glyphSetOf face.glyphNames).get? (face.glyphName glyph) = some metrics
      ∧ face.LastNamed face.glyphNames (face.glyphName glyph) metrics.glyph.toNat
      ∧ face.advance? metrics.glyph.toNat = some metrics.width := by
  obtain ⟨metrics, hmetrics⟩ := face.exists_get?_glyphSetOf hlt (face.getElem?_glyphNames hlt)
    (by rw [sound.isSome_advance? glyph hlt, hmeasured])
  exact ⟨metrics, hmetrics, (face.get?_glyphSetOf_eq_some_iff _ _ _).mp hmetrics⟩

/-- The last glyph of a name is the glyph itself exactly when no later glyph clashes with it. -/
lemma Sound.lastNamed_eq_iff (sound : face.Sound) (hmeasured : (face.advance? 0).isSome)
    {glyph last : Nat} (hlt : glyph < face.glyphCount.toNat)
    (hlast : face.LastNamed face.glyphNames (face.glyphName glyph) last) :
    last = glyph ↔ ∀ later, glyph < later → later < face.glyphCount.toNat →
      ¬ face.Clash later glyph ∧ ¬ face.Clash glyph later := by
  have hname : face.glyphName last = face.glyphName glyph := hlast.glyphName_eq
  have hle : ∀ other < face.glyphCount.toNat, face.glyphName other = face.glyphName glyph →
      other ≤ last := by
    intro other hother heq
    have hbearer := (face.mem_bearers_glyphNames _ other).mpr
      ⟨hother, heq, by rw [sound.isSome_advance? other hother, hmeasured]⟩
    exact ((face.lastNamed_iff_isGreatest _ _ _).mp hlast).2 hbearer
  constructor
  · rintro rfl later hgt hlater
    rw [← not_or, ← face.glyphName_eq_glyphName_iff (Nat.ne_of_gt hgt)]
    exact fun heq => absurd (hle later hlater heq) (Nat.not_le_of_gt hgt)
  · intro hclash
    by_contra hne
    have hgt : glyph < last := lt_of_le_of_ne (hle glyph hlt rfl) (Ne.symm hne)
    have hor := (face.glyphName_eq_glyphName_iff (Nat.ne_of_gt hgt)).mp hname
    exact absurd hor (not_or.mpr (hclash last hgt hlast.lt_glyphCount))

/-- A character whose glyph exists is measured as the last glyph of that name. -/
lemma Sound.lookup_of_present (sound : face.Sound) (hmeasured : (face.advance? 0).isSome)
    {ch : Char} {glyph : UInt16} (hcovered : face.bestGlyph? ch.toNat = some glyph)
    (hpresent : glyph < face.glyphCount) :
    ∃ metrics : GlyphMetrics,
      (face.lookup ch).outcome
        = .ok { character := ch, name := face.glyphName glyph.toNat, glyph := metrics.glyph,
                width := metrics.width, fallback := false }
      ∧ face.LastNamed face.glyphNames (face.glyphName glyph.toNat) metrics.glyph.toNat
      ∧ face.advance? metrics.glyph.toNat = some metrics.width := by
  obtain ⟨metrics, hmetrics, hlast, hwidth⟩ :=
    sound.exists_lastNamed hmeasured (UInt16.lt_iff_toNat_lt.mp hpresent)
  exact ⟨metrics, lookup_of_named (soughtName?_of_lt hcovered hpresent) hmetrics, hlast, hwidth⟩

/-! ### Glyphs that do not exist -/

/-- A glyph that bears the fallback name of a missing one is stored under it. -/
lemma storedName?_of_glyphName_eq (face : Face) {glyph other : Nat}
    (hle : face.glyphCount.toNat ≤ glyph) (hlt : other < face.glyphCount.toNat)
    (hname : face.glyphName other = fallbackName glyph) :
    face.storedName? other = some (fallbackName glyph) := by
  obtain ⟨-, hbase⟩ := (face.glyphName_eq_fallbackName_iff other glyph).mp hname
  by_cases hne : other = 0
  · rw [baseName, if_pos hne] at hbase
    exact absurd hbase.symm (fallbackName_ne_notdefName (by omega))
  · rw [baseName, if_neg hne] at hbase
    cases hstored : face.storedName? other with
    | none =>
        rw [hstored, Option.getD_none] at hbase
        have := fallbackName_injective hbase
        omega
    | some name =>
        rw [hstored, Option.getD_some] at hbase
        rw [hbase]

/-- No glyph bears the fallback name of a missing one exactly when none is stored under it. -/
lemma forall_glyphName_ne_fallbackName_iff (face : Face) {glyph : Nat}
    (hle : face.glyphCount.toNat ≤ glyph) :
    (∀ other < face.glyphCount.toNat, face.glyphName other ≠ fallbackName glyph)
      ↔ ∀ other, other ≠ 0 → other < face.glyphCount.toNat →
          face.storedName? other ≠ some (fallbackName glyph) := by
  constructor
  · intro h other hne hlt hstored
    have hbase : face.baseName other = fallbackName glyph := by
      rw [baseName, if_neg hne, hstored, Option.getD_some]
    obtain ⟨first, hfirst, hname⟩ := face.exists_glyphName_eq_baseName other
    exact h first (by omega) (by rw [hname, hbase])
  · intro h other hlt hname
    have hstored := face.storedName?_of_glyphName_eq hle hlt hname
    by_cases hne : other = 0
    · subst hne
      rw [glyphName_zero] at hname
      exact fallbackName_ne_notdefName (by omega) hname.symm
    · exact h other hne hlt hstored

end Face

/-! ### Characters whose glyph exists -/

/-- **A character whose glyph exists** is measured as the last glyph that bears the name of its own.
This is its own glyph exactly when no later glyph clashes with it. -/
theorem lookup_of_present_glyph {bytes : ByteArray} {file : FontFile}
    (opened : (FontFile.ofBytes bytes).outcome = .ok file) :
    ∃ face, file.face.outcome = .ok face ∧ ∀ (ch : Char) (glyph : UInt16),
      (face.advance? 0).isSome → face.bestGlyph? ch.toNat = some glyph → glyph < face.glyphCount →
      ∃ hit, (file.lookup ch).outcome = .ok hit ∧ hit.character = ch ∧ hit.fallback = false
        ∧ hit.name = face.glyphName glyph.toNat
        ∧ face.LastNamed face.glyphNames hit.name hit.glyph.toNat
        ∧ face.advance? hit.glyph.toNat = some hit.width
        ∧ ((hit.glyph = glyph ∧ face.advance? glyph.toNat = some hit.width)
          ↔ ∀ later, glyph.toNat < later → later < face.glyphCount.toNat →
              ¬ face.Clash later glyph.toNat ∧ ¬ face.Clash glyph.toNat later) := by
  obtain ⟨face, hface, sound⟩ := FontFile.exists_face opened
  refine ⟨face, hface, fun ch glyph measured covered present => ?_⟩
  have hlt : glyph.toNat < face.glyphCount.toNat := UInt16.lt_iff_toNat_lt.mp present
  obtain ⟨metrics, hlookup, hlast, hwidth⟩ := sound.lookup_of_present measured covered present
  rw [FontFile.lookup_of_face hface]
  refine ⟨_, hlookup, rfl, rfl, rfl, hlast, hwidth, ?_⟩
  rw [← sound.lastNamed_eq_iff measured hlt hlast]
  constructor
  · rintro ⟨heq, -⟩
    exact congrArg UInt16.toNat heq
  · intro heq
    exact ⟨UInt16.toNat_inj.mp heq, by rw [← heq]; exact hwidth⟩

/-- A font file with misleading names: a glyph is stored under the name that another one is called
after numbering, one under the fallback name of a glyph that does not exist, and one as
`.notdef`. -/
def misleadingFont : ByteArray := ⟨#[
  -- the directory
  0x00, 0x01, 0x00, 0x00, 0x00, 0x06, 0x00, 0x40, 0x00, 0x02, 0x00, 0x20,
  0x63, 0x6d, 0x61, 0x70, 0x00, 0x00, 0x00, 0x00, 0x00, 0x00, 0x00, 0x6c, 0x00, 0x00, 0x00, 0x1c,
  0x68, 0x65, 0x61, 0x64, 0x00, 0x00, 0x00, 0x00, 0x00, 0x00, 0x00, 0x88, 0x00, 0x00, 0x00, 0x36,
  0x68, 0x68, 0x65, 0x61, 0x00, 0x00, 0x00, 0x00, 0x00, 0x00, 0x00, 0xc0, 0x00, 0x00, 0x00, 0x24,
  0x68, 0x6d, 0x74, 0x78, 0x00, 0x00, 0x00, 0x00, 0x00, 0x00, 0x00, 0xe4, 0x00, 0x00, 0x00, 0x18,
  0x6d, 0x61, 0x78, 0x70, 0x00, 0x00, 0x00, 0x00, 0x00, 0x00, 0x00, 0xfc, 0x00, 0x00, 0x00, 0x06,
  0x70, 0x6f, 0x73, 0x74, 0x00, 0x00, 0x00, 0x00, 0x00, 0x00, 0x01, 0x04, 0x00, 0x00, 0x00, 0x3d,
  -- `cmap`: one map of format 6 for the codes 65, 66 and 67
  0x00, 0x00, 0x00, 0x01, 0x00, 0x03, 0x00, 0x01, 0x00, 0x00, 0x00, 0x0c, 0x00, 0x06, 0x00, 0x10,
  0x00, 0x00, 0x00, 0x41, 0x00, 0x03, 0x00, 0x02, 0x00, 0x09, 0x00, 0x05,
  -- `head`
  0x00, 0x01, 0x00, 0x00, 0x00, 0x01, 0x00, 0x00, 0x00, 0x00, 0x00, 0x00, 0x5f, 0x0f, 0x3c, 0xf5,
  0x00, 0x00, 0x03, 0xe8, 0x00, 0x00, 0x00, 0x00, 0x00, 0x00, 0x00, 0x00, 0x00, 0x00, 0x00, 0x00,
  0x00, 0x00, 0x00, 0x00, 0x00, 0x00, 0x00, 0x00, 0x00, 0x00, 0x00, 0x00, 0x00, 0x00, 0x00, 0x08,
  0x00, 0x02, 0x00, 0x00, 0x00, 0x00, 0x00, 0x00,
  -- `hhea`
  0x00, 0x01, 0x00, 0x00, 0x00, 0x00, 0x00, 0x00, 0x00, 0x00, 0x00, 0x00, 0x00, 0x00, 0x00, 0x00,
  0x00, 0x00, 0x00, 0x00, 0x00, 0x00, 0x00, 0x00, 0x00, 0x00, 0x00, 0x00, 0x00, 0x00, 0x00, 0x00,
  0x00, 0x00, 0x00, 0x06,
  -- `hmtx`: the widths 500, 600, ..., 1000
  0x01, 0xf4, 0x00, 0x00, 0x02, 0x58, 0x00, 0x00, 0x02, 0xbc, 0x00, 0x00, 0x03, 0x20, 0x00, 0x00,
  0x03, 0x84, 0x00, 0x00, 0x03, 0xe8, 0x00, 0x00,
  -- `maxp`
  0x00, 0x00, 0x50, 0x00, 0x00, 0x06, 0x00, 0x00,
  -- `post`: the names `A`, `A`, `A`, `A#1`, `glyph00009` and `.notdef`
  0x00, 0x02, 0x00, 0x00, 0x00, 0x00, 0x00, 0x00, 0x00, 0x00, 0x00, 0x00, 0x00, 0x00, 0x00, 0x00,
  0x00, 0x00, 0x00, 0x00, 0x00, 0x00, 0x00, 0x00, 0x00, 0x00, 0x00, 0x00, 0x00, 0x00, 0x00, 0x00,
  0x00, 0x06, 0x00, 0x24, 0x00, 0x24, 0x00, 0x24, 0x01, 0x02, 0x01, 0x03, 0x00, 0x00, 0x03, 0x41,
  0x23, 0x31, 0x0a, 0x67, 0x6c, 0x79, 0x70, 0x68, 0x30, 0x30, 0x30, 0x30, 0x39, 0x00, 0x00, 0x00]⟩

/-- The face of the font file with misleading names. -/
def misleadingFace : Face where
  unitsPerEm := 1000
  glyphCount := 6
  advances := some { own := #[500, 600, 700, 800, 900, 1000], covered := 6 }
  storedNames := some { numbers := #[36, 36, 36, 258, 259, 0], strings := #["A#1", "glyph00009"] }
  charmaps := some [{ encoding := ⟨3, 1⟩,
                      mapping := .run { first := 65, glyphs := #[2, 9, 5], bound := 65536 } }]

/-- The font file with misleading names, opened. -/
def misleadingFile : FontFile where
  bytes := misleadingFont

lemma face_misleadingFile : misleadingFile.face.outcome = .ok misleadingFace := by
  decide +kernel

lemma eq_misleadingFace {face : Face} (hface : misleadingFile.face.outcome = .ok face) :
    face = misleadingFace :=
  Except.ok.inj (hface.symm.trans face_misleadingFile)

lemma ofBytes_misleadingFont : (FontFile.ofBytes misleadingFont).outcome = .ok misleadingFile :=
  FontFile.ofBytes_eq_ok_iff.mpr
    ⟨rfl, misleadingFace, FontFile.face_eq_ok_iff.mp face_misleadingFile⟩

/-- The third glyph is called `A#1` after numbering, and the fourth is stored under that name: a
character of the third glyph is measured as the fourth. -/
theorem lookup_answers_later_glyph :
    (FontFile.ofBytes misleadingFont).outcome = .ok misleadingFile
      ∧ misleadingFile.face.outcome = .ok misleadingFace ∧ misleadingFace.advance? 0 = some 500
      ∧ misleadingFace.bestGlyph? 'A'.toNat = some 2 ∧ 2 < misleadingFace.glyphCount
      ∧ misleadingFace.advance? 2 = some 700
      ∧ (misleadingFile.lookup 'A').outcome
        = .ok { character := 'A', name := "A#1", glyph := 3, width := 800, fallback := false } := by
  refine ⟨ofBytes_misleadingFont, face_misleadingFile, ?_⟩
  decide +kernel

theorem lookup_of_present_glyph_misleadingFont :
    (FontFile.ofBytes misleadingFont).outcome = .ok misleadingFile
      ∧ misleadingFile.face.outcome = .ok misleadingFace ∧ (misleadingFace.advance? 0).isSome
      ∧ misleadingFace.bestGlyph? 'A'.toNat = some 2 ∧ 2 < misleadingFace.glyphCount
      ∧ ∃ hit, (misleadingFile.lookup 'A').outcome = .ok hit ∧ hit.character = 'A'
        ∧ hit.fallback = false ∧ hit.name = misleadingFace.glyphName (UInt16.toNat 2)
        ∧ misleadingFace.LastNamed misleadingFace.glyphNames hit.name hit.glyph.toNat
        ∧ misleadingFace.advance? hit.glyph.toNat = some hit.width
        ∧ ((hit.glyph = 2 ∧ misleadingFace.advance? (UInt16.toNat 2) = some hit.width)
          ↔ ∀ later, UInt16.toNat 2 < later → later < misleadingFace.glyphCount.toNat →
              ¬ misleadingFace.Clash later (UInt16.toNat 2)
                ∧ ¬ misleadingFace.Clash (UInt16.toNat 2) later) := by
  have measured : (misleadingFace.advance? 0).isSome := by decide +kernel
  have covered : misleadingFace.bestGlyph? 'A'.toNat = some 2 := by decide +kernel
  have present : 2 < misleadingFace.glyphCount := by decide +kernel
  obtain ⟨face, hface, hlookup⟩ := lookup_of_present_glyph ofBytes_misleadingFont
  obtain rfl := eq_misleadingFace hface
  exact ⟨ofBytes_misleadingFont, hface, measured, covered, present,
    hlookup 'A' 2 measured covered present⟩

/-! ### Characters whose glyph does not exist -/

/-- **A character whose glyph does not exist** is measured as `.notdef` exactly when no glyph is
stored under the fallback name of the missing one, and otherwise as a glyph that is. -/
theorem lookup_of_absent_glyph {bytes : ByteArray} {file : FontFile}
    (opened : (FontFile.ofBytes bytes).outcome = .ok file) :
    ∃ face, file.face.outcome = .ok face ∧ ∀ (ch : Char) (glyph width : UInt16),
      face.advance? 0 = some width → face.bestGlyph? ch.toNat = some glyph →
      face.glyphCount ≤ glyph →
      ∃ hit, (file.lookup ch).outcome = .ok hit
        ∧ (hit = { character := ch, name := ".notdef", glyph := 0, width, fallback := true }
          ↔ ∀ other, other ≠ 0 → other < face.glyphCount.toNat →
              face.storedName? other ≠ some (fallbackName glyph.toNat))
        ∧ (hit.fallback = false → face.storedName? hit.glyph.toNat = some (fallbackName glyph.toNat)
          ∧ face.advance? hit.glyph.toNat = some hit.width) := by
  obtain ⟨face, hface, sound⟩ := FontFile.exists_face opened
  refine ⟨face, hface, fun ch glyph width measured covered absent => ?_⟩
  have hle : face.glyphCount.toNat ≤ glyph.toNat := UInt16.le_iff_toNat_le.mp absent
  have hname := Face.soughtName?_of_le covered absent
  rw [FontFile.lookup_of_face hface, ← face.forall_glyphName_ne_fallbackName_iff hle]
  cases hget : (face.glyphSetOf face.glyphNames).get? (fallbackName glyph.toNat) with
  | some metrics =>
      obtain ⟨hlast, hwidth⟩ := (face.get?_glyphSetOf_eq_some_iff _ _ _).mp hget
      have hbears := hlast.glyphName_eq
      have hstored := face.storedName?_of_glyphName_eq hle hlast.lt_glyphCount hbears
      refine ⟨_, Face.lookup_of_named hname hget, ⟨?_, ?_⟩, fun _ => ⟨hstored, hwidth⟩⟩
      · intro hnotdef
        simpa using congrArg Hit.fallback hnotdef
      · intro hnone
        exact absurd hbears (hnone _ hlast.lt_glyphCount)
  | none =>
      have hnotdef : (face.lookup ch).outcome = .ok (Face.notdefHit ch width) := by
        refine sound.lookup_of_unnamed measured ?_
        intro name hsought
        rw [hname, Option.some.injEq] at hsought
        rw [← hsought, hget]
      refine ⟨_, hnotdef, ⟨fun _ => ?_, fun _ => rfl⟩, fun h => nomatch h⟩
      -- a glyph of that name would have metrics under it
      intro other hlt hbears
      obtain ⟨metrics, hmetrics, -⟩ := sound.exists_lastNamed (by simp [measured]) hlt
      rw [hbears, hget] at hmetrics
      cases hmetrics

/-- A glyph is stored under the fallback name of the tenth glyph, which does not exist: a character
of the tenth glyph is measured as the other one. -/
theorem lookup_answers_stored_fallback_name :
    (FontFile.ofBytes misleadingFont).outcome = .ok misleadingFile
      ∧ misleadingFile.face.outcome = .ok misleadingFace ∧ misleadingFace.advance? 0 = some 500
      ∧ misleadingFace.bestGlyph? 'B'.toNat = some 9 ∧ misleadingFace.glyphCount ≤ 9
      ∧ (misleadingFile.lookup 'B').outcome
        = .ok { character := 'B', name := "glyph00009", glyph := 4, width := 900,
                fallback := false } := by
  refine ⟨ofBytes_misleadingFont, face_misleadingFile, ?_⟩
  decide +kernel

theorem lookup_of_absent_glyph_misleadingFont :
    (FontFile.ofBytes misleadingFont).outcome = .ok misleadingFile
      ∧ misleadingFile.face.outcome = .ok misleadingFace ∧ misleadingFace.advance? 0 = some 500
      ∧ misleadingFace.bestGlyph? 'B'.toNat = some 9 ∧ misleadingFace.glyphCount ≤ 9
      ∧ ∃ hit, (misleadingFile.lookup 'B').outcome = .ok hit
        ∧ (hit = { character := 'B', name := ".notdef", glyph := 0, width := 500,
                   fallback := true }
          ↔ ∀ other, other ≠ 0 → other < misleadingFace.glyphCount.toNat →
              misleadingFace.storedName? other ≠ some (fallbackName (UInt16.toNat 9)))
        ∧ (hit.fallback = false → misleadingFace.storedName? hit.glyph.toNat
            = some (fallbackName (UInt16.toNat 9))
          ∧ misleadingFace.advance? hit.glyph.toNat = some hit.width) := by
  have measured : misleadingFace.advance? 0 = some 500 := by decide +kernel
  have covered : misleadingFace.bestGlyph? 'B'.toNat = some 9 := by decide +kernel
  have absent : misleadingFace.glyphCount ≤ 9 := by decide +kernel
  obtain ⟨face, hface, hlookup⟩ := lookup_of_absent_glyph ofBytes_misleadingFont
  obtain rfl := eq_misleadingFace hface
  exact ⟨ofBytes_misleadingFont, hface, measured, covered, absent,
    hlookup 'B' 9 500 measured covered absent⟩

/-! ### All characters -/

/-- **The failures and the fallbacks of a font.**  A file that was opened can be read again for any
character.  All characters fail or none does, as the first glyph has a width or not.  If it has one
`.notdef` is the first glyph, whatever the stored names; it answers for every character that is not
covered, and for none whose glyph exists. -/
theorem lookup_total {bytes : ByteArray} {file : FontFile}
    (opened : (FontFile.ofBytes bytes).outcome = .ok file) :
    ∃ face, file.face.outcome = .ok face
      ∧ ((∃ ch e, (file.lookup ch).outcome = .error e) ↔ face.advance? 0 = none)
      ∧ ((∀ ch, ∃ e, (file.lookup ch).outcome = .error e) ↔ face.advance? 0 = none)
      ∧ (∀ ch e, (file.lookup ch).outcome = .error e → e = .noNotdefGlyph)
      ∧ ∀ width, face.advance? 0 = some width →
          (∃ map set, file.mapAndGlyphs.outcome = .ok (map, set)
            ∧ set.get? ".notdef" = some { glyph := 0, width })
          ∧ (∀ ch hit, (file.lookup ch).outcome = .ok hit → hit.fallback = true →
              hit = { character := ch, name := ".notdef", glyph := 0, width, fallback := true })
          ∧ (∀ ch, face.bestGlyph? ch.toNat = none →
              ∃ hit, (file.lookup ch).outcome = .ok hit ∧ hit.fallback = true)
          ∧ ∀ ch glyph, face.bestGlyph? ch.toNat = some glyph → glyph < face.glyphCount →
              ∃ hit, (file.lookup ch).outcome = .ok hit ∧ hit.fallback = false := by
  obtain ⟨face, hface, sound⟩ := FontFile.exists_face opened
  have hfails : ∀ ch, (∃ e, (face.lookup ch).outcome = .error e) ↔ face.advance? 0 = none := by
    intro ch
    simp [sound.lookup_eq_error_iff]
  refine ⟨face, hface, ?_⟩
  simp only [FontFile.lookup_of_face hface, FontFile.mapAndGlyphs_of_face hface]
  refine ⟨?_, ?_, ?_, ?_⟩
  · exact ⟨fun ⟨ch, h⟩ => (hfails ch).mp h, fun h => ⟨'A', (hfails 'A').mpr h⟩⟩
  · exact ⟨fun h => (hfails 'A').mp (h 'A'), fun h ch => (hfails ch).mpr h⟩
  · intro ch e herror
    exact ((sound.lookup_eq_error_iff ch e).mp herror).2
  · intro width hwidth
    refine ⟨⟨_, _, face.outcome_mapAndGlyphs, sound.get?_notdefName hwidth⟩, ?_, ?_, ?_⟩
    · intro ch hit hhit hfallback
      obtain ⟨hit', hhit', hcases⟩ := sound.lookup_cases hwidth ch
      rw [hhit, Except.ok.injEq] at hhit'
      subst hhit'
      rcases hcases with hdirect | hnotdef
      · rw [hdirect] at hfallback
        cases hfallback
      · exact hnotdef
    · intro ch huncovered
      exact ⟨_, sound.lookup_of_uncovered hwidth huncovered, rfl⟩
    · intro ch glyph hcovered hpresent
      obtain ⟨metrics, hlookup, -⟩ :=
        sound.lookup_of_present (by simp [hwidth]) hcovered hpresent
      exact ⟨_, hlookup, rfl⟩

theorem lookup_total_misleadingFont :
    (FontFile.ofBytes misleadingFont).outcome = .ok misleadingFile
      ∧ misleadingFile.face.outcome = .ok misleadingFace
      ∧ (∀ ch e, (misleadingFile.lookup ch).outcome ≠ .error e)
      ∧ (∃ map set, misleadingFile.mapAndGlyphs.outcome = .ok (map, set)
        ∧ set.get? ".notdef" = some { glyph := 0, width := 500 })
      ∧ (∃ hit, (misleadingFile.lookup 'D').outcome = .ok hit ∧ hit.fallback = true)
      ∧ ∃ hit, (misleadingFile.lookup 'C').outcome = .ok hit ∧ hit.fallback = false := by
  obtain ⟨face, hface, hsome, -, -, hmeasured⟩ := lookup_total ofBytes_misleadingFont
  obtain rfl := eq_misleadingFace hface
  have measured : misleadingFace.advance? 0 = some 500 := by decide +kernel
  have uncovered : misleadingFace.bestGlyph? 'D'.toNat = none := by decide +kernel
  have covered : misleadingFace.bestGlyph? 'C'.toNat = some 5 := by decide +kernel
  have present : 5 < misleadingFace.glyphCount := by decide +kernel
  obtain ⟨hset, -, huncovered, hpresent⟩ := hmeasured 500 measured
  refine ⟨ofBytes_misleadingFont, hface, fun ch e herror => ?_, hset, huncovered 'D' uncovered,
    hpresent 'C' 5 covered present⟩
  rw [hsome.mp ⟨ch, e, herror⟩] at measured
  cases measured

end TicksAndWidths.Font
