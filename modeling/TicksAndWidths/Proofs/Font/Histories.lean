import Mathlib.Tactic
import TicksAndWidths.Proofs.Font.Answers

/-!
How characters are resolved while the two stores are being filled.

* `Stores`, `Action`, `Query`: the stores, what is done with them, and what is asked of them.
* `History`: what was put into the stores so far.  A history answers by the last insertion of a key
  (`lastOf`) and by the number of its different keys.
* `Stores.ofHistory_take` is the step lemma: an action adds to the history of the stores.
  `Stores.answer_ofHistory` says that stores answer as their history does.
* `resolve_congr`: what is resolved depends on the name of the character, on the metrics of that
  name and on those of `.notdef`, and on nothing else.
* `answers_of_history`: **every question is answered by the last insertions before it**, over whole
  runs.
-/

namespace TicksAndWidths.Font

/-! ### Runs -/

/-- The two stores through which characters are resolved. -/
structure Stores where
  map : CharacterMap
  set : GlyphSet

/-- What can be asked of the stores. -/
inductive Query where
  /-- The name that a code point is mapped to. -/
  | nameOf (codePoint : ℕ)
  /-- The number of code points that are mapped. -/
  | mapSize
  /-- Whether no code point is mapped. -/
  | mapIsEmpty
  /-- The metrics of a name. -/
  | metricsOf (name : String)
  /-- The number of names that have metrics. -/
  | setSize
  /-- Whether no name has metrics. -/
  | setIsEmpty
  /-- The answer for a character. -/
  | hitOf (ch : Char)
  /-- The width of a character. -/
  | widthOf (ch : Char)

/-- What the stores answer. -/
inductive Answer where
  | name (name : Option String)
  | metrics (metrics : Option GlyphMetrics)
  | size (size : ℕ)
  | isEmpty (empty : Bool)
  | hit (hit : Except GlyphError Hit)
  | width (width : Except GlyphError UInt16)
deriving DecidableEq

/-- What can be done with the stores. -/
inductive Action where
  /-- Maps a code point to a name. -/
  | mapTo (codePoint : ℕ) (name : String)
  /-- Stores the metrics of a name. -/
  | store (name : String) (metrics : GlyphMetrics)
  /-- Asks a question. -/
  | ask (query : Query)

/-- The answers that a run of actions gives, in their order, from a state on. -/
def answersOf {σ : Type} (take : σ → Action → σ) (answer : σ → Query → Answer) (state : σ) :
    List Action → List Answer
  | [] => []
  | action :: rest =>
    match action with
    | .ask query => answer state query :: answersOf take answer (take state action) rest
    | _ => answersOf take answer (take state action) rest

namespace Stores

/-- The stores after an action.  A question leaves them as they are. -/
def take (stores : Stores) : Action → Stores
  | .mapTo codePoint name => { stores with map := stores.map.insert codePoint name }
  | .store name metrics => { stores with set := stores.set.insert name metrics }
  | .ask _ => stores

/-- What the stores answer to a question. -/
def answer (stores : Stores) : Query → Answer
  | .nameOf codePoint => .name (stores.map.get? codePoint)
  | .mapSize => .size stores.map.size
  | .mapIsEmpty => .isEmpty stores.map.isEmpty
  | .metricsOf name => .metrics (stores.set.get? name)
  | .setSize => .size stores.set.size
  | .setIsEmpty => .isEmpty stores.set.isEmpty
  | .hitOf ch => .hit (resolve stores.map stores.set ch).outcome
  | .widthOf ch => .width (glyphWidth stores.map stores.set ch).outcome

end Stores

/-! ### Histories -/

section LastOf

variable {α β : Type} [DecidableEq α]

/-- The value of the last pair of a key. -/
def lastOf (pairs : List (α × β)) (key : α) : Option β :=
  pairs.reverse.lookup key

/-- The number of the different keys of some pairs. -/
def keyCount (pairs : List (α × β)) : ℕ :=
  (pairs.map Prod.fst).toFinset.card

lemma isSome_lastOf_iff {pairs : List (α × β)} {key : α} :
    (lastOf pairs key).isSome ↔ key ∈ pairs.map Prod.fst := by
  simp only [lastOf, List.lookup_isSome_iff, List.mem_reverse, beq_iff_eq, List.mem_map]
  exact exists_congr fun pair => and_congr_right fun _ => eq_comm

lemma keyCount_beq_zero (pairs : List (α × β)) : (keyCount pairs == 0) = pairs.isEmpty := by
  cases pairs <;> simp [keyCount]

end LastOf

/-- What was put into the stores, each insertion behind the ones before it. -/
structure History where
  mapped : List (ℕ × String)
  stored : List (String × GlyphMetrics)

namespace History

/-- The history after an action. -/
def take (history : History) : Action → History
  | .mapTo codePoint name => { history with mapped := history.mapped ++ [(codePoint, name)] }
  | .store name metrics => { history with stored := history.stored ++ [(name, metrics)] }
  | .ask _ => history

/-- The answer for a character: the metrics last stored for the name that it was last mapped to, or
else the metrics last stored for `.notdef`. -/
def hit (history : History) (ch : Char) : Except GlyphError Hit :=
  match (lastOf history.mapped ch.toNat).bind fun name =>
      (lastOf history.stored name).map fun metrics => (name, metrics) with
  | some (name, metrics) =>
    .ok { character := ch, name, glyph := metrics.glyph, width := metrics.width, fallback := false }
  | none =>
    match lastOf history.stored ".notdef" with
    | some metrics =>
      .ok { character := ch, name := ".notdef", glyph := metrics.glyph, width := metrics.width,
            fallback := true }
    | none => .error .noNotdefGlyph

/-- What a history answers to a question. -/
def answer (history : History) : Query → Answer
  | .nameOf codePoint => .name (lastOf history.mapped codePoint)
  | .mapSize => .size (keyCount history.mapped)
  | .mapIsEmpty => .isEmpty history.mapped.isEmpty
  | .metricsOf name => .metrics (lastOf history.stored name)
  | .setSize => .size (keyCount history.stored)
  | .setIsEmpty => .isEmpty history.stored.isEmpty
  | .hitOf ch => .hit (history.hit ch)
  | .widthOf ch => .width ((history.hit ch).map (·.width))

end History

/-! ### Stores with a history -/

/-- The stores that some insertions make. -/
def Stores.ofHistory (history : History) : Stores where
  map := .ofList history.mapped
  set := .ofList history.stored

/-- An action adds to the history of the stores. -/
lemma Stores.ofHistory_take (history : History) (action : Action) :
    Stores.ofHistory (history.take action) = (Stores.ofHistory history).take action := by
  cases action with
  | mapTo codePoint name =>
      simp [ofHistory, take, History.take, CharacterMap.ofList]
  | store name metrics =>
      simp [ofHistory, take, History.take, GlyphSet.ofList]
  | ask query => rfl

lemma CharacterMap.size_ofList (pairs : List (ℕ × String)) :
    (CharacterMap.ofList pairs).size = keyCount pairs := by
  refine size_eq_card _ _ fun codePoint => ?_
  rw [List.mem_toFinset, ← isSome_lastOf_iff, lastOf, ← CharacterMap.get?_ofList]
  rfl

lemma GlyphSet.size_ofList (pairs : List (String × GlyphMetrics)) :
    (GlyphSet.ofList pairs).size = keyCount pairs := by
  refine size_eq_card _ _ fun name => ?_
  rw [List.mem_toFinset, ← isSome_lastOf_iff, lastOf, ← GlyphSet.get?_ofList]
  rfl

lemma CharacterMap.isEmpty_ofList (pairs : List (ℕ × String)) :
    (CharacterMap.ofList pairs).isEmpty = pairs.isEmpty := by
  rw [← keyCount_beq_zero, ← CharacterMap.size_ofList]
  exact Std.TreeMap.isEmpty_eq_size_eq_zero

lemma GlyphSet.isEmpty_ofList (pairs : List (String × GlyphMetrics)) :
    (GlyphSet.ofList pairs).isEmpty = pairs.isEmpty := by
  rw [← keyCount_beq_zero, ← GlyphSet.size_ofList]
  exact Std.TreeMap.isEmpty_eq_size_eq_zero

/-- Stores resolve a character as their history does. -/
lemma outcome_resolve_ofHistory (history : History) (ch : Char) :
    (resolve (.ofList history.mapped) (.ofList history.stored) ch).outcome = history.hit ch := by
  rw [outcome_resolve, directHit?, fallbackHit?, CharacterMap.get?_ofList, GlyphSet.get?_ofList,
    History.hit, lastOf, lastOf, notdefName]
  cases history.mapped.reverse.lookup ch.toNat with
  | none => cases history.stored.reverse.lookup ".notdef" <;> rfl
  | some name =>
      simp only [bind, Option.bind_some, GlyphSet.get?_ofList, lastOf]
      cases history.stored.reverse.lookup name with
      | none => cases history.stored.reverse.lookup ".notdef" <;> rfl
      | some metrics => rfl

lemma outcome_glyphWidth (map : CharacterMap) (set : GlyphSet) (ch : Char) :
    (glyphWidth map set ch).outcome = (resolve map set ch).outcome.map (·.width) := by
  rw [glyphWidth, Logged.outcome_bind]
  cases (resolve map set ch).outcome <;> rfl

/-- Stores answer as their history does. -/
lemma Stores.answer_ofHistory (history : History) (query : Query) :
    (Stores.ofHistory history).answer query = history.answer query := by
  cases query with
  | nameOf codePoint => exact congrArg _ (CharacterMap.get?_ofList _ _)
  | mapSize => exact congrArg _ (CharacterMap.size_ofList _)
  | mapIsEmpty => exact congrArg _ (CharacterMap.isEmpty_ofList _)
  | metricsOf name => exact congrArg _ (GlyphSet.get?_ofList _ _)
  | setSize => exact congrArg _ (GlyphSet.size_ofList _)
  | setIsEmpty => exact congrArg _ (GlyphSet.isEmpty_ofList _)
  | hitOf ch => exact congrArg _ (outcome_resolve_ofHistory history ch)
  | widthOf ch =>
      rw [answer, outcome_glyphWidth]
      exact congrArg (fun hit => Answer.width (hit.map Hit.width))
        (outcome_resolve_ofHistory history ch)

/-- A run on stores gives the answers of their history. -/
lemma answersOf_ofHistory (history : History) (actions : List Action) :
    answersOf Stores.take Stores.answer (.ofHistory history) actions
      = answersOf History.take History.answer history actions := by
  induction actions generalizing history with
  | nil => rfl
  | cons action rest ih =>
      have hrest := ih (history.take action)
      rw [Stores.ofHistory_take] at hrest
      cases action with
      | mapTo codePoint name => exact hrest
      | store name metrics => exact hrest
      | ask query => rw [answersOf, answersOf, hrest, Stores.answer_ofHistory]

/-! ### What an insertion leaves as it is -/

/-- What is resolved depends on the name of the character, on the metrics of that name and on those
of `.notdef`, and on nothing else. -/
lemma resolve_congr {map map' : CharacterMap} {set set' : GlyphSet} {ch : Char}
    (hname : map.get? ch.toNat = map'.get? ch.toNat)
    (hmetrics : ∀ name, map.get? ch.toNat = some name → set.get? name = set'.get? name)
    (hnotdef : set.get? notdefName = set'.get? notdefName) :
    resolve map set ch = resolve map' set' ch := by
  have hdirect : directHit? map set ch = directHit? map' set' ch := by
    rw [directHit?, directHit?, ← hname]
    cases h : map.get? ch.toNat with
    | none => rfl
    | some name => simp only [bind, Option.bind_some, hmetrics name h]
  have hmiss : missText map ch = missText map' ch := by rw [missText, missText, hname]
  have hfallback : fallbackHit? set ch = fallbackHit? set' ch := by
    rw [fallbackHit?, fallbackHit?, hnotdef]
  rw [resolve, resolve, hdirect, hmiss, hfallback]

/-- Mapping another code point does not change what is resolved. -/
lemma resolve_insert_codePoint {codePoint : ℕ} {ch : Char} (h : codePoint ≠ ch.toNat)
    (map : CharacterMap) (set : GlyphSet) (name : String) :
    resolve (map.insert codePoint name) set ch = resolve map set ch :=
  resolve_congr (by rw [CharacterMap.get?_insert, if_neg h]) (fun _ _ => rfl) rfl

/-- Storing the metrics of another name does not change what is resolved, nor does it for a name to
which the character is not mapped. -/
lemma resolve_insert_name {name : String} {map : CharacterMap} {ch : Char}
    (hnotdef : name ≠ notdefName) (hname : map.get? ch.toNat ≠ some name) (set : GlyphSet)
    (metrics : GlyphMetrics) :
    resolve map (set.insert name metrics) ch = resolve map set ch := by
  refine resolve_congr rfl (fun mapped hmapped => ?_) ?_
  · rw [GlyphSet.get?_insert, if_neg]
    rintro rfl
    exact hname hmapped
  · rw [GlyphSet.get?_insert, if_neg hnotdef]

/-! ### Whole runs -/

lemma ofHistory_foldl (history : History) (actions : List Action) :
    actions.foldl Stores.take (.ofHistory history)
      = .ofHistory (actions.foldl History.take history) := by
  induction actions generalizing history with
  | nil => rfl
  | cons action rest ih =>
      rw [List.foldl_cons, ← Stores.ofHistory_take, ih, List.foldl_cons]

/-- What was stored stays in the history. -/
lemma History.stored_subset_foldl (history : History) (actions : List Action) :
    history.stored ⊆ (actions.foldl take history).stored := by
  induction actions generalizing history with
  | nil => exact List.Subset.refl _
  | cons action rest ih =>
      refine List.Subset.trans ?_ (ih (history.take action))
      cases action with
      | mapTo codePoint name => exact List.Subset.refl _
      | store name metrics => exact List.subset_append_left _ _
      | ask query => exact List.Subset.refl _

/-- Every character has an answer once `.notdef` has metrics. -/
lemma History.exists_hit {history : History} (h : notdefName ∈ history.stored.map Prod.fst)
    (ch : Char) : ∃ hit, history.hit ch = .ok hit := by
  obtain ⟨metrics, hmetrics⟩ := Option.isSome_iff_exists.mp (isSome_lastOf_iff.mpr h)
  rw [notdefName] at hmetrics
  rw [hit, hmetrics]
  split
  · exact ⟨_, rfl⟩
  · exact ⟨_, rfl⟩

/-- **Every question is answered by the last insertions before it.**  In a run of insertions and
questions in any order, the name of a code point and the metrics of a name are those that were put
in last, the sizes are the numbers of different keys, and a character is resolved through them.
Once `.notdef` has metrics every character has an answer for good.  What is resolved is not changed
by mapping another code point, nor by storing the metrics of a name that is neither `.notdef` nor
the one to which the character is mapped. -/
theorem answers_of_history (history : History) (actions : List Action) :
    answersOf Stores.take Stores.answer (.ofHistory history) actions
        = answersOf History.take History.answer history actions
      ∧ (notdefName ∈ (actions.foldl History.take history).stored.map Prod.fst →
        ∀ more ch, ∃ hit, ((actions ++ more).foldl Stores.take (.ofHistory history)).answer
          (.hitOf ch) = .hit (.ok hit))
      ∧ (∀ map set ch codePoint name, codePoint ≠ Char.toNat ch →
        resolve (map.insert codePoint name) set ch = resolve map set ch)
      ∧ ∀ map set ch name metrics, name ≠ notdefName → map.get? (Char.toNat ch) ≠ some name →
        resolve map (set.insert name metrics) ch = resolve map set ch := by
  refine ⟨answersOf_ofHistory history actions, fun h more ch => ?_,
    fun map set ch codePoint name h => resolve_insert_codePoint h map set name,
    fun map set ch name metrics h h' => resolve_insert_name h h' set metrics⟩
  have hmore : notdefName ∈ ((actions ++ more).foldl History.take history).stored.map Prod.fst := by
    rw [List.foldl_append]
    exact List.map_subset _ (History.stored_subset_foldl _ more) h
  obtain ⟨hit, hhit⟩ := History.exists_hit hmore ch
  exact ⟨hit, by rw [ofHistory_foldl, Stores.answer_ofHistory, History.answer, hhit]⟩

/-- Stores of one character and its glyph. -/
def firstHistory : History where
  mapped := [(65, "A")]
  stored := [("A", ⟨1, 600⟩)]

/-- A character is mapped before its glyph has metrics and before `.notdef` has, and then to another
name. -/
def laterActions : List Action :=
  [.ask (.hitOf 'B'), .mapTo 66 "B", .ask (.hitOf 'B'), .store ".notdef" ⟨0, 500⟩,
   .ask (.hitOf 'B'), .store "B" ⟨2, 700⟩, .ask (.hitOf 'B'), .mapTo 66 "A", .ask (.widthOf 'B'),
   .ask .mapSize, .ask .setSize, .ask .setIsEmpty]

theorem answers_of_history_laterActions :
    answersOf Stores.take Stores.answer (.ofHistory firstHistory) laterActions
        = [.hit (.error .noNotdefGlyph), .hit (.error .noNotdefGlyph),
           .hit (.ok { character := 'B', name := ".notdef", glyph := 0, width := 500,
                       fallback := true }),
           .hit (.ok { character := 'B', name := "B", glyph := 2, width := 700,
                       fallback := false }),
           .width (.ok 600), .size 2, .size 3, .isEmpty false]
      ∧ notdefName ∈ (laterActions.foldl History.take firstHistory).stored.map Prod.fst
      ∧ (∃ hit, ((laterActions ++ [Action.mapTo 90 "Z"]).foldl Stores.take
          (.ofHistory firstHistory)).answer (.hitOf 'Z') = .hit (.ok hit))
      ∧ resolve ((CharacterMap.ofList [(65, "A")]).insert 66 "B") {} 'A'
          = resolve (.ofList [(65, "A")]) {} 'A'
      ∧ (CharacterMap.ofList [(65, "A")]).get? 65 ≠ some "B"
      ∧ resolve (.ofList [(65, "A")]) (GlyphSet.insert {} "B" ⟨2, 700⟩) 'A'
          = resolve (.ofList [(65, "A")]) {} 'A' := by
  obtain ⟨hanswers, hnever, hmap, hset⟩ := answers_of_history firstHistory laterActions
  have hstored :
      notdefName ∈ (laterActions.foldl History.take firstHistory).stored.map Prod.fst := by
    decide +kernel
  have hname : (CharacterMap.ofList [(65, "A")]).get? 65 ≠ some "B" := by
    rw [CharacterMap.get?_ofList]
    decide
  refine ⟨hanswers.trans (by decide +kernel), hstored, hnever hstored _ _,
    hmap _ _ _ _ _ (by decide), hname, hset _ _ _ _ _ (by decide) hname⟩

end TicksAndWidths.Font
