import TicksAndWidths.Unicode.Ranges

/-!
White space, in the sense of the Unicode property of that name, and trimming.

`isBlank_iff` says that white space is what the table of ranges lists, and `trim_eq_nil_iff` that a
text is trimmed to nothing exactly when it is all white space.
-/

namespace TicksAndWidths.Unicode

/-- The code points with the property White_Space. -/
def blankRanges : Ranges :=
  [(0x0009, 0x000d), (0x0020, 0x0020), (0x0085, 0x0085), (0x00a0, 0x00a0), (0x1680, 0x1680),
   (0x2000, 0x200a), (0x2028, 0x2029), (0x202f, 0x202f), (0x205f, 0x205f), (0x3000, 0x3000)]

/-- Whether a character is white space. -/
def isBlank (c : Char) : Bool :=
  blankRanges.contains c.toNat

/-- White space is what some range holds. -/
theorem isBlank_iff {c : Char} : isBlank c ↔ ∃ r ∈ blankRanges, r.1 ≤ c.toNat ∧ c.toNat ≤ r.2 :=
  Ranges.mem_iff (show blankRanges.AscendingFrom 0 by decide)

/-- Drops the white space at both ends of a text. -/
def trim (text : List Char) : List Char :=
  ((text.dropWhile isBlank).reverse.dropWhile isBlank).reverse

/-- Dropping leaves nothing exactly when there is only white space to drop. -/
theorem dropWhile_isBlank_eq_nil_iff {text : List Char} :
    text.dropWhile isBlank = [] ↔ ∀ c ∈ text, isBlank c := by
  induction text with
  | nil => simp
  | cons c text ih => by_cases h : isBlank c <;> simp [h, ih]

/-- A text is trimmed to nothing exactly when it holds nothing but white space. -/
theorem trim_eq_nil_iff {text : List Char} : trim text = [] ↔ ∀ c ∈ text, isBlank c := by
  simp only [trim, List.reverse_eq_nil_iff, dropWhile_isBlank_eq_nil_iff, List.mem_reverse]
  constructor
  · intro h
    refine dropWhile_isBlank_eq_nil_iff.1 ?_
    -- a rest that is not empty would begin with a character that is not white space
    cases rest : text.dropWhile isBlank with
    | nil => rfl
    | cons c l =>
      have blank : isBlank c := h c (by simp [rest])
      have := List.head?_dropWhile_not isBlank text
      simp [rest, blank] at this
  · intro h c hc
    exact h c ((List.dropWhile_sublist isBlank).mem hc)

end TicksAndWidths.Unicode
