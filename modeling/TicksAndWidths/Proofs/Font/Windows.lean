import Mathlib.Tactic
import TicksAndWidths.Font.Draft
import TicksAndWidths.Font.Window

/-!
Reading the bytes that were written.

* `Window.Shows`: some bytes stand in a window from a position on.  Of bytes that follow each other
  each part stands where the ones before it end (`Shows.left`, `Shows.right`).
* `Window.u16?_of_shows`, `Window.u32?_of_shows`: a written number is read back.
* `Window.exists_slice?_of_shows`, `Window.Shows.of_drop?`: a part of a window shows its bytes.
* `Window.records?_of_shows`: **records of one size that follow each other are read back** one by
  one, and there are as many as were asked for (`Window.length_of_records?`).
-/

namespace TicksAndWidths.Font

/-- A partial function goes through a list exactly when it has a value at each entry. -/
lemma mapM_eq_some_iff {α β : Type} (f : α → Option β) (l : List α) (r : List β) :
    l.mapM f = some r ↔ List.Forall₂ (fun a b => f a = some b) l r := by
  induction l generalizing r with
  | nil => simp [eq_comm]
  | cons a l ih =>
      simp only [List.mapM_cons, bind, Option.bind_eq_some_iff, pure, Option.some.injEq]
      constructor
      · rintro ⟨b, hb, rest, hrest, rfl⟩
        exact .cons hb ((ih rest).mp hrest)
      · rintro (_ | ⟨hb, hrest⟩)
        exact ⟨_, hb, _, (ih _).mpr hrest, rfl⟩

/-- What is related entry by entry is related from the left. -/
lemma exists_right_of_mem {α β : Type} {R : α → β → Prop} {xs : List α} {ys : List β}
    (h : List.Forall₂ R xs ys) {x : α} (hx : x ∈ xs) : ∃ y ∈ ys, R x y := by
  induction h with
  | nil => cases hx
  | cons hxy _ ih =>
      rcases List.mem_cons.mp hx with rfl | hrest
      · exact ⟨_, List.mem_cons_self, hxy⟩
      · obtain ⟨y, hy, hR⟩ := ih hrest
        exact ⟨y, List.mem_cons_of_mem _ hy, hR⟩

/-- What is related entry by entry is related from the right. -/
lemma exists_left_of_mem {α β : Type} {R : α → β → Prop} {xs : List α} {ys : List β}
    (h : List.Forall₂ R xs ys) {y : β} (hy : y ∈ ys) : ∃ x ∈ xs, R x y :=
  exists_right_of_mem (List.Forall₂.flip h) hy

/-- A list each entry of which is related to something is related to a list. -/
lemma exists_forall₂ {α β : Type} {R : α → β → Prop} {xs : List α} (h : ∀ x ∈ xs, ∃ y, R x y) :
    ∃ ys, List.Forall₂ R xs ys := by
  induction xs with
  | nil => exact ⟨[], .nil⟩
  | cons x xs ih =>
      obtain ⟨y, hy⟩ := h x List.mem_cons_self
      obtain ⟨ys, hys⟩ := ih fun x' hx' => h x' (List.mem_cons_of_mem _ hx')
      exact ⟨y :: ys, .cons hy hys⟩

/-- Lists of one length that encode to the same number of bytes each. -/
lemma length_flatMap_of_forall {α β : Type} {encode : α → List β} {stride : Nat} {xs : List α}
    (hlen : ∀ x ∈ xs, (encode x).length = stride) :
    (xs.flatMap encode).length = xs.length * stride := by
  rw [List.length_flatMap, List.map_eq_replicate_iff.mpr hlen, List.sum_replicate, smul_eq_mul]

/-! ### Numbers -/

namespace Draft

@[simp] lemma length_u16 (n : UInt16) : (u16 n).length = 2 := rfl

@[simp] lemma length_u32 (n : UInt32) : (u32 n).length = 4 := rfl

@[simp] lemma length_zeros (count : Nat) : (zeros count).length = count :=
  List.length_replicate

/-- A number of four bytes is its high half before its low half. -/
lemma u32_eq_append (n : UInt32) : u32 n = u16 (n >>> 16).toUInt16 ++ u16 n.toUInt16 := by
  have h24 : (n >>> 24).toUInt8 = ((n >>> 16).toUInt16 >>> 8).toUInt8 := by
    rw [← UInt8.toNat_inj]
    simp [Nat.shiftRight_eq_div_pow]
    omega
  have h8 : (n >>> 8).toUInt8 = (n.toUInt16 >>> 8).toUInt8 := by
    rw [← UInt8.toNat_inj]
    simp [Nat.shiftRight_eq_div_pow]
    omega
  simp only [u32, u16, h24, h8, UInt32.toUInt8_toUInt16]
  rfl

end Draft

namespace Window

variable {w v : Window} {start : Nat} {bytes front back : List UInt8}

/-- The bytes stand in the window from a position on. -/
def Shows (w : Window) (start : Nat) (bytes : List UInt8) : Prop :=
  ∃ before after, w.toList = before ++ bytes ++ after ∧ before.length = start

lemma shows_of_toList_eq (h : w.toList = bytes) : w.Shows 0 bytes :=
  ⟨[], [], by simp [h], rfl⟩

lemma Shows.left (h : w.Shows start (front ++ back)) : w.Shows start front := by
  obtain ⟨before, after, heq, hlen⟩ := h
  exact ⟨before, back ++ after, by simp [heq], hlen⟩

lemma Shows.right (h : w.Shows start (front ++ back)) : w.Shows (start + front.length) back := by
  obtain ⟨before, after, heq, hlen⟩ := h
  exact ⟨before ++ front, after, by simp [heq], by simp [hlen]⟩

lemma Shows.le_size (h : w.Shows start bytes) : start + bytes.length ≤ w.size := by
  obtain ⟨before, after, heq, hlen⟩ := h
  have hsize := w.length_toList
  rw [heq, List.length_append, List.length_append] at hsize
  omega

lemma Shows.drop_take (h : w.Shows start bytes) :
    (w.toList.drop start).take bytes.length = bytes := by
  obtain ⟨before, after, heq, rfl⟩ := h
  rw [heq, List.append_assoc, List.drop_left, List.take_left]

/-- Reading a byte of a part that stands in the window. -/
lemma Shows.byte? (h : w.Shows start bytes) {i : Nat} (hi : i < bytes.length) :
    w.byte? (start + i) = some bytes[i] := by
  obtain ⟨before, after, heq, rfl⟩ := h
  rw [byte?_eq_getElem?, heq, List.append_assoc, List.getElem?_append_right (by omega),
    Nat.add_sub_cancel_left, List.getElem?_append_left hi, List.getElem?_eq_getElem hi]

/-- A written number of two bytes is read back. -/
lemma u16?_of_shows {n : UInt16} (h : w.Shows start (Draft.u16 n)) : w.u16? start = some n := by
  have hhigh := h.byte? (i := 0) (by simp)
  have hlow := h.byte? (i := 1) (by simp)
  have hvalue : UInt16.ofNat (256 * (n >>> 8).toUInt8.toNat + n.toUInt8.toNat) = n := by
    rw [← UInt16.toNat_inj]
    have := n.toNat_lt
    simp [Nat.shiftRight_eq_div_pow]
    omega
  simp only [Nat.add_zero] at hhigh
  simp only [u16?, hhigh, hlow, bind, Option.bind_some, Draft.u16, List.getElem_cons_zero,
    List.getElem_cons_succ, hvalue, pure]

/-- A written number of four bytes is read back. -/
lemma u32?_of_shows {n : UInt32} (h : w.Shows start (Draft.u32 n)) : w.u32? start = some n := by
  rw [Draft.u32_eq_append] at h
  have hhigh := u16?_of_shows h.left
  have hlow := u16?_of_shows h.right
  have hvalue : UInt32.ofNat (65536 * (n >>> 16).toUInt16.toNat + n.toUInt16.toNat) = n := by
    rw [← UInt32.toNat_inj]
    have := n.toNat_lt
    simp [Nat.shiftRight_eq_div_pow]
    omega
  rw [Draft.length_u16] at hlow
  simp only [u32?, hhigh, hlow, bind, Option.bind_some, hvalue, pure]

/-! ### Parts -/

lemma exists_slice? {size : Nat} (h : start + size ≤ w.size) :
    ∃ v, w.slice? start size = some v := by
  rw [slice?, dif_pos h]
  exact ⟨_, rfl⟩

/-- Cutting out bytes that stand in a window gives a window on them. -/
lemma exists_slice?_of_shows (h : w.Shows start bytes) :
    ∃ v, w.slice? start bytes.length = some v ∧ v.toList = bytes := by
  obtain ⟨v, hv⟩ := exists_slice? h.le_size
  exact ⟨v, hv, (toList_of_slice? hv).trans h.drop_take⟩

/-- What stands in a window beyond a position stands in the rest from there. -/
lemma Shows.of_drop? {offset : Nat} (hdrop : w.drop? offset = some v)
    (h : w.Shows (offset + start) bytes) : v.Shows start bytes := by
  have hlist := toList_of_slice? hdrop
  rw [List.take_of_length_le (by simp)] at hlist
  obtain ⟨before, after, heq, hlen⟩ := h
  refine ⟨before.drop offset, after, ?_, by simp [hlen]⟩
  rw [hlist, heq, List.append_assoc, List.drop_append_of_le_length (by omega), List.append_assoc]

lemma exists_drop? {offset : Nat} (h : offset ≤ w.size) : ∃ v, w.drop? offset = some v :=
  exists_slice? (by omega)

/-! ### Records -/

lemma length_of_records? {α : Type} {count stride : Nat} {read? : Nat → Option α} {list : List α}
    (h : w.records? start count stride read? = some list) : list.length = count := by
  rw [records?] at h
  split at h
  · rw [← ((mapM_eq_some_iff _ _ _).mp h).length_eq, List.length_range]
  · cases h

/-- Of parts that follow each other each stands behind the parts before it. -/
lemma Shows.getElem_flatMap {α : Type} {encode : α → List UInt8} {xs : List α}
    (h : w.Shows start (xs.flatMap encode)) {k : Nat} (hk : k < xs.length) :
    w.Shows (start + ((xs.take k).map fun x => (encode x).length).sum) (encode xs[k]) := by
  have hsplit : xs = xs.take k ++ xs[k] :: xs.drop (k + 1) := by simp
  rw [hsplit, List.flatMap_append, List.flatMap_cons] at h
  have hright := h.right
  rw [List.length_flatMap] at hright
  exact hright.left

/-- Of records of one size that follow each other each stands at its multiple of the size. -/
lemma Shows.getElem_flatMap_of_forall {α : Type} {encode : α → List UInt8} {stride : Nat}
    {xs : List α} (hlen : ∀ x ∈ xs, (encode x).length = stride)
    (h : w.Shows start (xs.flatMap encode)) {k : Nat} (hk : k < xs.length) :
    w.Shows (start + k * stride) (encode xs[k]) := by
  have hfront : ((xs.take k).map fun x => (encode x).length).sum = k * stride := by
    rw [← List.length_flatMap,
      length_flatMap_of_forall fun x hx => hlen x (List.mem_of_mem_take hx), List.length_take,
      Nat.min_eq_left hk.le]
  exact hfront ▸ h.getElem_flatMap hk

/-- **Records of one size that follow each other are read back.** -/
theorem records?_of_shows {α β : Type} {encode : α → List UInt8} {stride : Nat} {xs : List α}
    {read? : Nat → Option β} {value : α → β} (hlen : ∀ x ∈ xs, (encode x).length = stride)
    (hread : ∀ i, ∀ x ∈ xs, w.Shows i (encode x) → read? i = some (value x))
    (h : w.Shows start (xs.flatMap encode)) :
    w.records? start xs.length stride read? = some (xs.map value) := by
  have hsize := h.le_size
  rw [length_flatMap_of_forall hlen] at hsize
  rw [records?, if_pos hsize, mapM_eq_some_iff, List.forall₂_iff_get]
  refine ⟨by simp, fun k hk _ => ?_⟩
  rw [List.length_range] at hk
  simpa using hread _ _ (List.getElem_mem hk) (h.getElem_flatMap_of_forall hlen hk)

end Window

end TicksAndWidths.Font
