/-!
Sets of code points, written as ascending lists of inclusive ranges.

`mem_iff` says that the search, which stops at the first range that begins after the code point,
still finds every member as long as the ranges ascend.  Whether they do is decided range by range.
-/

namespace TicksAndWidths.Unicode

/-- A set of code points: inclusive ranges in ascending order. -/
abbrev Ranges := List (Nat × Nat)

namespace Ranges

/-- Whether some range holds `n`.  The search ends at a range that begins after `n`. -/
def contains : Ranges → Nat → Bool
  | [], _ => false
  | (first, last) :: rest, n => first ≤ n && (n ≤ last || contains rest n)

/-- No range begins before `bound`, and each begins after the one before it has ended. -/
def AscendingFrom : Ranges → Nat → Prop
  | [], _ => True
  | (first, last) :: rest, bound => bound ≤ first ∧ first ≤ last ∧ AscendingFrom rest (last + 1)

instance decidableAscendingFrom :
    (ranges : Ranges) → (bound : Nat) → Decidable (ranges.AscendingFrom bound)
  | [], _ => .isTrue trivial
  | (first, last) :: rest, bound =>
    have := decidableAscendingFrom rest (last + 1)
    inferInstanceAs (Decidable (bound ≤ first ∧ first ≤ last ∧ AscendingFrom rest (last + 1)))

/-- Ascending ranges do not begin before their bound. -/
theorem AscendingFrom.le_of_mem {ranges : Ranges} {bound : Nat} (h : ranges.AscendingFrom bound)
    {r : Nat × Nat} (hr : r ∈ ranges) : bound ≤ r.1 := by
  induction ranges generalizing bound with
  | nil => cases hr
  | cons s rest ih =>
    obtain ⟨hbound, hends, hrest⟩ := h
    rcases List.mem_cons.1 hr with rfl | hr
    · exact hbound
    · have := ih hrest hr
      omega

/-- In ascending ranges the search finds exactly the members. -/
theorem mem_iff {ranges : Ranges} {bound : Nat} (h : ranges.AscendingFrom bound) {n : Nat} :
    ranges.contains n = true ↔ ∃ r ∈ ranges, r.1 ≤ n ∧ n ≤ r.2 := by
  induction ranges generalizing bound with
  | nil => simp [contains]
  | cons s rest ih =>
    obtain ⟨first, last⟩ := s
    obtain ⟨-, hends, hrest⟩ := h
    simp only [contains, Bool.and_eq_true, Bool.or_eq_true, decide_eq_true_eq, ih hrest,
      List.mem_cons, exists_eq_or_imp]
    constructor
    · rintro ⟨hfirst, hlast | hr⟩
      · exact .inl ⟨hfirst, hlast⟩
      · exact .inr hr
    · rintro (⟨hfirst, hlast⟩ | ⟨r, hr, hle, hlast⟩)
      · exact ⟨hfirst, .inl hlast⟩
      · have := hrest.le_of_mem hr
        exact ⟨by omega, .inr ⟨r, hr, hle, hlast⟩⟩

end Ranges

end TicksAndWidths.Unicode
