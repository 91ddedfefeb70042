import Mathlib.Tactic
import TicksAndWidths.Font.Draft

/-!
What a draft holds after some steps.

* `notdefWidthOf`, `widthsOf`, `encodingsOf`, `glyphOf`: what the steps say, read off their list.
* `Reflects`: a draft holds what the steps say.  `Reflects.apply` is the step lemma and
  `reflects_of_ofSteps` the run lemma.
* `exists_ofSteps`: **steps that stay within the numbers of a draft draw one up.**
* `Reflects.length_allWidths`, `Reflects.length_maps`: a draft has the glyphs that were appended
  beside `.notdef`, and one map for each encoding that was used.
-/

namespace TicksAndWidths.Font.Draft

/-! ### What the steps say -/

/-- The width that a step gives to `.notdef`. -/
def Step.notdefWidth? : Step → Option UInt16
  | .notdefWidth width => some width
  | _ => none

/-- The width of the glyph that a step appends. -/
def Step.width? : Step → Option UInt16
  | .glyph width => some width
  | _ => none

/-- The encoding in which a step maps a character. -/
def Step.encoding? : Step → Option Encoding
  | .map encoding _ _ => some encoding
  | _ => none

/-- The width of `.notdef` after some steps, which is the last that was set. -/
def notdefWidthOf (steps : List Step) : UInt16 :=
  (steps.reverse.findSome? Step.notdefWidth?).getD 500

/-- The widths of the glyphs that some steps append. -/
def widthsOf (steps : List Step) : List UInt16 :=
  steps.filterMap Step.width?

/-- The encodings in which some steps map characters. -/
def encodingsOf (steps : List Step) : List Encoding :=
  steps.filterMap Step.encoding?

/-- The glyph to which a step maps a character in an encoding. -/
def Step.glyphIn? (encoding : Encoding) (ch : Char) : Step → Option UInt16
  | .map other ch' mapped => if other = encoding ∧ ch' = ch then some mapped else none
  | _ => none

/-- The glyph of the last step that maps a character in an encoding, and 0 if there is none. -/
def glyphOf (steps : List Step) (encoding : Encoding) (ch : Char) : UInt16 :=
  (steps.reverse.findSome? (Step.glyphIn? encoding ch)).getD 0

lemma notdefWidthOf_append (steps : List Step) (step : Step) :
    notdefWidthOf (steps ++ [step]) = step.notdefWidth?.getD (notdefWidthOf steps) := by
  cases h : step.notdefWidth? <;> simp [notdefWidthOf, h]

lemma widthsOf_append (steps : List Step) (step : Step) :
    widthsOf (steps ++ [step]) = widthsOf steps ++ step.width?.toList := by
  cases h : step.width? <;> simp [widthsOf, h]

lemma encodingsOf_append (steps : List Step) (step : Step) :
    encodingsOf (steps ++ [step]) = encodingsOf steps ++ step.encoding?.toList := by
  cases h : step.encoding? <;> simp [encodingsOf, h]

lemma glyphOf_append (steps : List Step) (step : Step) (encoding : Encoding) (ch : Char) :
    glyphOf (steps ++ [step]) encoding ch
      = (step.glyphIn? encoding ch).getD (glyphOf steps encoding ch) := by
  cases h : step.glyphIn? encoding ch <;> simp [glyphOf, h]

/-- An encoding is used by a step. -/
lemma exists_step_of_mem_encodingsOf {steps : List Step} {encoding : Encoding}
    (h : encoding ∈ encodingsOf steps) : ∃ ch glyph, .map encoding ch glyph ∈ steps := by
  obtain ⟨step, hstep, hencoding⟩ := List.mem_filterMap.mp h
  cases step with
  | notdefWidth width => cases hencoding
  | glyph width => cases hencoding
  | map other ch glyph =>
      cases hencoding
      exact ⟨ch, glyph, hstep⟩

/-! ### The maps of a draft -/

/-- The glyph that some maps give to a code in an encoding, and 0 if there is none. -/
def glyphAt (maps : List DraftMap) (encoding : Encoding) (code : Nat) : UInt8 :=
  match maps.find? (·.encoding = encoding) with
  | some map => map.glyphs[code]?.getD 0
  | none => 0

/-- Setting a code shows at that code of that encoding and nowhere else. -/
lemma glyphAt_setCode (maps : List DraftMap) (encoding other : Encoding) (code : Fin 256)
    (code' : Nat) (glyph : UInt8) :
    glyphAt (setCode encoding code glyph maps) other code'
      = if encoding = other ∧ code.val = code' then glyph else glyphAt maps other code' := by
  induction maps with
  | nil =>
      by_cases he : encoding = other
      · have hempty : (Vector.replicate 256 (0 : UInt8))[code']?.getD 0 = 0 := by
          rw [Vector.getElem?_replicate]
          split <;> rfl
        by_cases hc : code.val = code' <;> simp [setCode, glyphAt, he, hc, hempty]
      · simp [setCode, glyphAt, he]
  | cons map rest ih =>
      by_cases hm : map.encoding = encoding
      · by_cases he : encoding = other
        · by_cases hc : code.val = code' <;> simp [setCode, glyphAt, hm, he, hc]
        · simp [setCode, glyphAt, hm, he]
      · by_cases ho : map.encoding = other
        · have he : encoding ≠ other := fun h => hm (ho.trans h.symm)
          rw [setCode, if_neg hm, if_neg fun hc => he hc.1]
          simp [glyphAt, ho]
        · simpa [setCode, glyphAt, hm, ho] using ih

/-- A map says which glyphs its encoding has if no other map is for that encoding. -/
lemma glyphAt_of_mem {maps : List DraftMap} (hnodup : (maps.map (·.encoding)).Nodup)
    {map : DraftMap} (hmem : map ∈ maps) (code : Nat) :
    glyphAt maps map.encoding code = map.glyphs[code]?.getD 0 := by
  have hfind : maps.find? (·.encoding = map.encoding) = some map := by
    cases hother : maps.find? (·.encoding = map.encoding) with
    | none => simpa using List.find?_eq_none.mp hother map hmem
    | some other =>
        have hsame : other.encoding = map.encoding := by simpa using List.find?_some hother
        rw [List.inj_on_of_nodup_map hnodup (List.mem_of_find?_eq_some hother) hmem hsame]
  rw [glyphAt, hfind]

/-- Setting a code adds its encoding behind the others if it is not there. -/
lemma map_encoding_setCode (maps : List DraftMap) (encoding : Encoding) (code : Fin 256)
    (glyph : UInt8) :
    (setCode encoding code glyph maps).map (·.encoding)
      = if encoding ∈ maps.map (·.encoding) then maps.map (·.encoding)
        else maps.map (·.encoding) ++ [encoding] := by
  induction maps with
  | nil => simp [setCode]
  | cons map rest ih =>
      by_cases hm : map.encoding = encoding
      · simp [setCode, hm]
      · rw [setCode, if_neg hm, List.map_cons, ih]
        by_cases he : encoding ∈ rest.map (·.encoding)
        · simp [he]
        · simp [he, Ne.symm hm]

/-! ### Drafts and steps -/

/-- A draft holds what some steps say. -/
structure Reflects (draft : Draft) (steps : List Step) : Prop where
  notdefWidth : draft.notdefWidth = notdefWidthOf steps
  widths : draft.widths.toList = widthsOf steps
  nodup : (draft.maps.map (·.encoding)).Nodup
  mem_encodings : ∀ encoding,
    encoding ∈ draft.maps.map (·.encoding) ↔ encoding ∈ encodingsOf steps
  glyph : ∀ encoding (ch : Char),
    (glyphAt draft.maps encoding ch.toNat).toUInt16 = glyphOf steps encoding ch

lemma reflects_nil : Reflects {} [] :=
  ⟨rfl, rfl, List.nodup_nil, fun _ => Iff.rfl, fun _ _ => rfl⟩

/-- A step that is taken keeps the draft in accord with the steps. -/
lemma Reflects.apply {draft draft' : Draft} {steps : List Step} {step : Step}
    (h : Reflects draft steps) (happly : draft.apply step = .ok draft') :
    Reflects draft' (steps ++ [step]) := by
  rcases h with ⟨hnotdef, hwidths, hnodup, hencodings, hglyphs⟩
  cases step with
  | notdefWidth width =>
      cases happly
      exact ⟨by simp [notdefWidthOf_append, Step.notdefWidth?],
        by simpa [widthsOf_append, Step.width?] using hwidths, hnodup,
        by simpa [encodingsOf_append, Step.encoding?] using hencodings,
        by simpa [glyphOf_append, Step.glyphIn?] using hglyphs⟩
  | glyph width =>
      cases happly
      exact ⟨by simpa [notdefWidthOf_append, Step.notdefWidth?] using hnotdef,
        by simp [widthsOf_append, Step.width?, hwidths], hnodup,
        by simpa [encodingsOf_append, Step.encoding?] using hencodings,
        by simpa [glyphOf_append, Step.glyphIn?] using hglyphs⟩
  | map encoding ch glyph =>
      rw [Draft.apply] at happly
      split at happly
      case isFalse => cases happly
      next hch =>
      split at happly
      case isFalse => cases happly
      next hglyph =>
      cases happly
      refine ⟨by simpa [notdefWidthOf_append, Step.notdefWidth?] using hnotdef,
        by simpa [widthsOf_append, Step.width?] using hwidths, ?_, fun other => ?_,
        fun other ch' => ?_⟩
      · rw [map_encoding_setCode]
        split
        · exact hnodup
        · next hmem => exact List.Nodup.append hnodup (List.nodup_singleton _) (by simpa using hmem)
      · rw [map_encoding_setCode, encodingsOf_append, Step.encoding?, Option.toList_some]
        split
        · next hmem =>
            have hused := (hencodings encoding).mp hmem
            rw [hencodings, List.mem_append, List.mem_singleton]
            exact ⟨Or.inl, fun hor => hor.elim id fun heq => heq ▸ hused⟩
        · rw [List.mem_append, List.mem_append, hencodings]
      · rw [glyphAt_setCode, glyphOf_append, Step.glyphIn?]
        by_cases hsame : encoding = other ∧ ch = ch'
        · obtain ⟨rfl, rfl⟩ := hsame
          have hlt : glyph.toNat < 256 := UInt16.lt_iff_toNat_lt.mp hglyph
          simp only [and_self, if_true, Option.getD_some]
          rw [← UInt16.toNat_inj]
          simp
          omega
        · have hcode : ¬ (encoding = other ∧ ch.toNat = ch'.toNat) :=
            fun hc => hsame ⟨hc.1, Char.toNat_inj.mp hc.2⟩
          rw [if_neg hcode, if_neg hsame, Option.getD_none]
          exact hglyphs other ch'

lemma ofSteps_append (steps : List Step) (step : Step) :
    ofSteps (steps ++ [step]) = ofSteps steps >>= fun draft => draft.apply step := by
  simp [ofSteps]

/-- The draft after some steps holds what they say. -/
theorem reflects_of_ofSteps {steps : List Step} {draft : Draft} (h : ofSteps steps = .ok draft) :
    Reflects draft steps := by
  induction steps using List.reverseRecOn generalizing draft with
  | nil =>
      cases h
      exact reflects_nil
  | append_singleton steps step ih =>
      rw [ofSteps_append] at h
      cases hsteps : ofSteps steps with
      | error fault =>
          rw [hsteps] at h
          cases h
      | ok before =>
          rw [hsteps] at h
          exact (ih hsteps).apply h

/-- **Steps that map codes below 256 to glyphs below 256 draw up a draft.** -/
theorem exists_ofSteps {steps : List Step}
    (small : ∀ encoding ch glyph, .map encoding ch glyph ∈ steps → ch.toNat < 256 ∧ glyph < 256) :
    ∃ draft, ofSteps steps = .ok draft := by
  induction steps using List.reverseRecOn with
  | nil => exact ⟨{}, rfl⟩
  | append_singleton steps step ih =>
      obtain ⟨draft, hdraft⟩ := ih fun encoding ch glyph hmem =>
        small encoding ch glyph (List.mem_append_left _ hmem)
      rw [ofSteps_append, hdraft]
      cases step with
      | notdefWidth width => exact ⟨_, rfl⟩
      | glyph width => exact ⟨_, rfl⟩
      | map encoding ch glyph =>
          obtain ⟨hch, hglyph⟩ := small encoding ch glyph (by simp)
          refine ⟨{ draft with
            maps := setCode encoding ⟨ch.toNat, hch⟩ glyph.toUInt8 draft.maps }, ?_⟩
          show draft.apply (.map encoding ch glyph) = _
          rw [Draft.apply, dif_pos hch, if_pos hglyph]

/-- A draft has `.notdef` and the glyphs that were appended. -/
lemma Reflects.length_allWidths {draft : Draft} {steps : List Step} (h : Reflects draft steps) :
    draft.allWidths.length = 1 + (widthsOf steps).length := by
  rw [allWidths, List.length_cons, h.widths, Nat.add_comm]

/-- A draft has one map for each encoding that was used. -/
lemma Reflects.length_maps {draft : Draft} {steps : List Step} (h : Reflects draft steps) :
    draft.maps.length = (encodingsOf steps).toFinset.card := by
  have hset : (draft.maps.map (·.encoding)).toFinset = (encodingsOf steps).toFinset := by
    ext encoding
    rw [List.mem_toFinset, List.mem_toFinset, h.mem_encodings]
  rw [← hset, List.toFinset_card_of_nodup h.nodup, List.length_map]

end TicksAndWidths.Font.Draft
