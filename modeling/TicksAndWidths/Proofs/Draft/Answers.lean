import Mathlib.Tactic
import TicksAndWidths.Proofs.Draft.Faces
import TicksAndWidths.Proofs.Font.Answers

/-!
What the font of a draft answers for a character.

* `bestEncoding?`, `mappedGlyph`, `answerOf`: the answer that the steps of a draft lead to, read off
  their list.
* `Renders.bestGlyph?`: a face that renders a draft takes the map of the best encoding.
* `lookup_of_steps`: **drawing up a font, writing it and reading it back** answers for every
  character as the steps say.
-/

namespace TicksAndWidths.Font.Draft

/-! ### What the steps lead to -/

/-- The best of the encodings in which some steps map characters. -/
def bestEncoding? (steps : List Step) : Option Encoding :=
  preferredEncodings.find? (· ∈ encodingsOf steps)

/-- The glyph to which some steps map a character in their best encoding, and 0 if they do not. -/
def mappedGlyph (steps : List Step) (ch : Char) : UInt16 :=
  match bestEncoding? steps with
  | some encoding => glyphOf steps encoding ch
  | none => 0

/-- The answer that some steps lead to: the mapped glyph if it is one that they append, or else
`.notdef`. -/
def answerOf (steps : List Step) (ch : Char) : Hit :=
  let glyph := mappedGlyph steps ch
  if h : 0 < glyph.toNat ∧ glyph.toNat < 1 + (widthsOf steps).length then
    { character := ch, name := fallbackName glyph.toNat, glyph
      width := (widthsOf steps)[glyph.toNat - 1], fallback := false }
  else
    { character := ch, name := ".notdef", glyph := 0, width := notdefWidthOf steps
      fallback := true }

/-! ### The best map -/

/-- The first value in a list is the value at the first entry that has one. -/
lemma findSome?_eq_bind {α β : Type} (f : α → Option β) (l : List α) :
    l.findSome? f = (l.find? fun a => (f a).isSome).bind f := by
  induction l with
  | nil => rfl
  | cons a l ih =>
      cases h : f a with
      | none => simp [h, ih]
      | some b => simp [h]

/-- Of maps that read each other the first of an encoding read each other. -/
lemma map_find?_of_forall₂ {charmaps : List Charmap} {maps : List DraftMap}
    (h : List.Forall₂ Reads charmaps maps) (encoding : Encoding) :
    (charmaps.find? (·.encoding = encoding)).map Charmap.listed?
      = (maps.find? (·.encoding = encoding)).map glyphOf? := by
  induction h with
  | nil => rfl
  | cons hread _ ih =>
      obtain ⟨hencoding, hlisted⟩ := hread
      simp only [List.find?_cons, hencoding]
      split
      · rw [Option.map_some, Option.map_some, hlisted]
      · exact ih

/-- A face that renders a draft gives a code the glyph of the draft's best map. -/
lemma Renders.bestGlyph? {face : Face} {draft : Draft} (h : Renders face draft) (code : Nat) :
    face.bestGlyph? code
      = (preferredEncodings.find? (· ∈ draft.maps.map (·.encoding))).bind fun encoding =>
          (draft.maps.find? (·.encoding = encoding)).bind (glyphOf? · code) := by
  obtain ⟨charmaps, hcharmaps, hreads⟩ := h.charmaps
  have hbest : (bestCharmap? charmaps).map Charmap.listed?
      = (preferredEncodings.findSome? fun encoding =>
          draft.maps.find? (·.encoding = encoding)).map glyphOf? := by
    rw [bestCharmap?, List.map_findSome?, List.map_findSome?]
    exact congrArg (preferredEncodings.findSome? ·) (funext (map_find?_of_forall₂ hreads))
  have hused : ∀ encoding, (draft.maps.find? (·.encoding = encoding)).isSome
      = decide (encoding ∈ draft.maps.map (·.encoding)) := by
    intro encoding
    rw [Bool.eq_iff_iff]
    simp
  calc face.bestGlyph? code
      = ((bestCharmap? charmaps).map Charmap.listed?).bind (· code) := by
        rw [Face.bestGlyph?, hcharmaps, Option.bind_some, Option.bind_map]
        rfl
    _ = (preferredEncodings.findSome? fun encoding =>
          draft.maps.find? (·.encoding = encoding)).bind (glyphOf? · code) := by
        rw [hbest, Option.bind_map]
        rfl
    _ = _ := by
        rw [findSome?_eq_bind, Option.bind_assoc]
        simp only [hused]

/-- The glyph of a code in some maps, where glyph 0 stands for none. -/
lemma bind_glyphOf? (maps : List DraftMap) (encoding : Encoding) (code : Nat) :
    (maps.find? (·.encoding = encoding)).bind (glyphOf? · code)
      = if (glyphAt maps encoding code).toUInt16 = 0 then none
        else some (glyphAt maps encoding code).toUInt16 := by
  have hzero : ∀ glyph : UInt8, glyph.toUInt16 = 0 ↔ glyph = 0 := fun glyph =>
    UInt8.toUInt16_inj (b := 0)
  cases hmap : maps.find? (·.encoding = encoding) with
  | none => simp [glyphAt, hmap]
  | some map =>
      simp only [glyphAt, hmap, Option.bind_some, glyphOf?]
      cases hcode : map.glyphs[code]? with
      | none => rfl
      | some glyph => by_cases hglyph : glyph = 0 <;> simp [hglyph, hzero]

/-- A face that renders a draft gives a character the glyph to which the steps of the draft map
it. -/
lemma Renders.bestGlyph?_of_reflects {face : Face} {draft : Draft} {steps : List Step}
    (hrenders : Renders face draft) (hreflects : Reflects draft steps) (ch : Char) :
    face.bestGlyph? ch.toNat
      = if mappedGlyph steps ch = 0 then none else some (mappedGlyph steps ch) := by
  rw [hrenders.bestGlyph?, mappedGlyph, bestEncoding?]
  simp only [hreflects.mem_encodings]
  cases preferredEncodings.find? fun encoding => decide (encoding ∈ encodingsOf steps) with
  | none => rfl
  | some encoding => rw [Option.bind_some, bind_glyphOf?, hreflects.glyph]

/-! ### Fonts without stored names -/

/-- Where no names are stored every glyph is sought under its fallback name. -/
lemma nameIn_of_storedNames_eq_none {face : Face} (h : face.storedNames = none) (glyph : UInt16) :
    nameIn face.glyphNames.toArray glyph = fallbackName glyph.toNat := by
  by_cases hlt : glyph < face.glyphCount
  · rw [Face.nameIn_glyphNames_of_lt hlt, face.glyphName_eq_fallbackName h]
  · exact Face.nameIn_glyphNames_of_le (UInt16.not_lt.mp hlt)

/-- Where no names are stored the fallback name of a glyph leads to that glyph. -/
lemma glyph_of_get?_fallbackName {face : Face} (h : face.storedNames = none) {glyph : Nat}
    {metrics : GlyphMetrics}
    (hget : (face.glyphSetOf face.glyphNames).get? (fallbackName glyph) = some metrics) :
    metrics.glyph.toNat = glyph ∧ glyph < face.glyphCount.toNat
      ∧ face.advance? glyph = some metrics.width := by
  obtain ⟨hlast, hwidth⟩ := (face.get?_glyphSetOf_eq_some_iff _ _ _).mp hget
  have hname := hlast.glyphName_eq
  rw [face.glyphName_eq_fallbackName h] at hname
  have hglyph : metrics.glyph.toNat = glyph := fallbackName_injective hname
  exact ⟨hglyph, hglyph ▸ hlast.lt_glyphCount, hglyph ▸ hwidth⟩

/-- **A face that renders a draft answers as the steps of the draft say.** -/
theorem Renders.lookup {face : Face} {draft : Draft} {steps : List Step} (sound : face.Sound)
    (hrenders : Renders face draft) (hreflects : Reflects draft steps) (ch : Char) :
    (face.lookup ch).outcome = .ok (answerOf steps ch) := by
  have hcount : face.glyphCount.toNat = (widthsOf steps).length + 1 := by
    rw [hrenders.glyphCount, allWidths, List.length_cons, hreflects.widths]
  have hadvance : ∀ glyph,
      face.advance? glyph = (notdefWidthOf steps :: widthsOf steps)[glyph]? := by
    intro glyph
    rw [hrenders.advance?, allWidths, hreflects.widths, hreflects.notdefWidth]
  have hnotdef : face.advance? 0 = some (notdefWidthOf steps) := by
    rw [hadvance, List.getElem?_cons_zero]
  have hsought : face.soughtName? ch.toNat
      = if mappedGlyph steps ch = 0 then none
        else some (fallbackName (mappedGlyph steps ch).toNat) := by
    rw [Face.soughtName?, hrenders.bestGlyph?_of_reflects hreflects]
    split
    · rfl
    · rw [Option.map_some, nameIn_of_storedNames_eq_none hrenders.storedNames]
  rw [answerOf]
  split
  · next hglyph =>
      obtain ⟨hpos, hexists⟩ := hglyph
      have hlt : (mappedGlyph steps ch).toNat - 1 < (widthsOf steps).length := by omega
      have hne : mappedGlyph steps ch ≠ 0 := fun hzero => by simp [hzero] at hpos
      rw [if_neg hne] at hsought
      obtain ⟨metrics, hmetrics, -⟩ := sound.exists_lastNamed (by simp [hnotdef])
        (show (mappedGlyph steps ch).toNat < face.glyphCount.toNat by omega)
      rw [face.glyphName_eq_fallbackName hrenders.storedNames] at hmetrics
      obtain ⟨hglyph, -, hwidth⟩ := glyph_of_get?_fallbackName hrenders.storedNames hmetrics
      rw [hadvance, List.getElem?_cons, if_neg (by omega), List.getElem?_eq_getElem hlt,
        Option.some.injEq] at hwidth
      rw [Face.lookup_of_named hsought hmetrics, hwidth, UInt16.toNat_inj.mp hglyph]
  · next hglyph =>
      refine sound.lookup_of_unnamed hnotdef ?_
      intro name hname
      rw [hsought] at hname
      split at hname
      · cases hname
      · next hne =>
          have hpos : 0 < (mappedGlyph steps ch).toNat :=
            Nat.pos_of_ne_zero fun hzero => hne (UInt16.toNat_inj.mp hzero)
          cases hname
          rw [Option.eq_none_iff_forall_not_mem]
          intro metrics hmetrics
          obtain ⟨-, hlt, -⟩ := glyph_of_get?_fallbackName hrenders.storedNames hmetrics
          exact hglyph ⟨hpos, by omega⟩

/-! ### From the steps to the answers -/

/-- **A font that is drawn up, written and read back answers as the steps say**, for any steps that
stay within the numbers of a draft. -/
theorem lookup_of_steps (steps : List Step)
    (small : ∀ encoding ch glyph, Step.map encoding ch glyph ∈ steps →
      ch.toNat < 256 ∧ glyph < 256 ∧ encoding.platform ≤ 4)
    (glyphs : 1 + (widthsOf steps).length ≤ 65535)
    (encodings : (encodingsOf steps).toFinset.card < 65536) :
    ∃ bytes file, bytesOfSteps steps = .ok bytes ∧ (FontFile.ofBytes bytes).outcome = .ok file
      ∧ ∀ ch, (file.lookup ch).outcome = .ok (answerOf steps ch) := by
  have hsmall : ∀ encoding ch glyph, .map encoding ch glyph ∈ steps →
      ch.toNat < 256 ∧ glyph < 256 := fun encoding ch glyph hmem =>
    let ⟨hch, hglyph, _⟩ := small encoding ch glyph hmem
    ⟨hch, hglyph⟩
  obtain ⟨draft, bytes, hdraft, hwrite⟩ := exists_write_of_small hsmall (by omega)
  have hreflects := reflects_of_ofSteps hdraft
  have hplatform : ∀ map ∈ draft.maps, map.encoding.platform ≤ Charmap.maxPlatform := by
    intro map hmap
    obtain ⟨ch, glyph, hstep⟩ := exists_step_of_mem_encodingsOf
      ((hreflects.mem_encodings _).mp (List.mem_map_of_mem hmap))
    obtain ⟨-, -, hplatform⟩ := small _ ch glyph hstep
    exact hplatform
  obtain ⟨face, hface, hrenders⟩ := exists_renders hwrite (hreflects.length_maps ▸ encodings)
    hplatform
  refine ⟨_, { bytes := _ }, bytesOfSteps_eq_ok_iff.mpr ⟨draft, bytes, hdraft, hwrite, rfl⟩,
    FontFile.ofBytes_eq_ok_iff.mpr ⟨rfl, face, hface⟩, fun ch => ?_⟩
  rw [FontFile.lookup_of_face (FontFile.face_eq_ok_iff.mpr hface)]
  exact hrenders.lookup (Face.sound_of_ofBytes hface) hreflects ch

/-- Steps that map a character in two encodings, and in the better one twice, and that map another
character to a glyph they do not append. -/
def rivalSteps : List Step :=
  [.map ⟨0, 3⟩ 'A' 1, .glyph 600, .map ⟨3, 1⟩ 'A' 1, .notdefWidth 450, .glyph 700,
   .map ⟨3, 1⟩ 'B' 3, .map ⟨3, 1⟩ 'A' 2]

theorem lookup_of_steps_rivalSteps :
    (∀ encoding ch glyph, Step.map encoding ch glyph ∈ rivalSteps →
      ch.toNat < 256 ∧ glyph < 256 ∧ encoding.platform ≤ 4)
      ∧ 1 + (widthsOf rivalSteps).length ≤ 65535
      ∧ (encodingsOf rivalSteps).toFinset.card < 65536
      ∧ ∃ bytes file, bytesOfSteps rivalSteps = .ok bytes
        ∧ (FontFile.ofBytes bytes).outcome = .ok file
        ∧ (file.lookup 'A').outcome = .ok { character := 'A', name := "glyph00002", glyph := 2,
                                            width := 700, fallback := false }
        ∧ (file.lookup 'B').outcome = .ok { character := 'B', name := ".notdef", glyph := 0,
                                            width := 450, fallback := true } := by
  have small : ∀ encoding ch glyph, Step.map encoding ch glyph ∈ rivalSteps →
      ch.toNat < 256 ∧ glyph < 256 ∧ encoding.platform ≤ 4 := by
    intro encoding ch glyph hmem
    simp only [rivalSteps, List.mem_cons, Step.map.injEq, reduceCtorEq, List.not_mem_nil, false_or,
      or_false] at hmem
    rcases hmem with ⟨rfl, rfl, rfl⟩ | ⟨rfl, rfl, rfl⟩ | ⟨rfl, rfl, rfl⟩ | ⟨rfl, rfl, rfl⟩
    all_goals decide
  have glyphs : 1 + (widthsOf rivalSteps).length ≤ 65535 := by decide
  have encodings : (encodingsOf rivalSteps).toFinset.card < 65536 := by decide
  obtain ⟨bytes, file, hbytes, hfile, hanswers⟩ := lookup_of_steps rivalSteps small glyphs encodings
  refine ⟨small, glyphs, encodings, bytes, file, hbytes, hfile, ?_, ?_⟩
  · rw [hanswers]
    decide +kernel
  · rw [hanswers]
    decide +kernel

end TicksAndWidths.Font.Draft
