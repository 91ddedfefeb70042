import Mathlib.Data.List.TakeWhile
import Mathlib.Tactic
import TicksAndWidths.Text.Numeral

/-!
Runs of characters of one class, and the decimal numbers that runs of digits spell.

* `takeWhile_append_of_stop` and `dropWhile_append_of_stop`: a run goes up to the first character
  that does not belong to it.  `span_ne_append` is the case of all characters but one.
* `EndsNumber`: what may follow a number.
* `readDecimal?_eq_some_iff`: **a number is read up to the last of its digits**, and nothing else is
  read as one.
-/

namespace TicksAndWidths.Text

/-! ### Runs -/

section Runs

variable {p : Char → Bool} {run rest : List Char}

/-- A run is taken up to the first character that does not belong to it. -/
lemma takeWhile_append_of_stop (hrun : ∀ c ∈ run, p c) (hrest : ∀ c ∈ rest.head?, ¬ p c) :
    (run ++ rest).takeWhile p = run := by
  rw [List.takeWhile_append_of_pos hrun]
  cases rest with
  | nil => exact List.append_nil run
  | cons c rest => rw [List.takeWhile_cons_of_neg (hrest c rfl), List.append_nil]

/-- A run is dropped up to the first character that does not belong to it. -/
lemma dropWhile_append_of_stop (hrun : ∀ c ∈ run, p c) (hrest : ∀ c ∈ rest.head?, ¬ p c) :
    (run ++ rest).dropWhile p = rest := by
  rw [List.dropWhile_append_of_pos hrun]
  cases rest with
  | nil => rfl
  | cons c rest => exact List.dropWhile_cons_of_neg (hrest c rfl)

/-- What comes behind a run does not begin with another character of it. -/
lemma not_of_mem_head?_dropWhile {text : List Char} {c : Char}
    (hc : c ∈ (text.dropWhile p).head?) : ¬ p c := by
  have hstop := List.head?_dropWhile_not p text
  rw [Option.mem_def.mp hc] at hstop
  simpa using hstop

/-- A run that a certain character ends. -/
lemma eq_append_of_dropWhile_eq_cons {text : List Char} {c : Char}
    (h : text.dropWhile p = c :: rest) : text = text.takeWhile p ++ c :: rest := by
  rw [← h, List.takeWhile_append_dropWhile]

/-- A text up to the first place of a certain character, and from there on. -/
lemma span_ne_append {c : Char} {before : List Char} (h : c ∉ before) (after : List Char) :
    (before ++ c :: after).takeWhile (· ≠ c) = before
      ∧ (before ++ c :: after).dropWhile (· ≠ c) = c :: after := by
  have hbefore : ∀ d ∈ before, decide (d ≠ c) = true := by
    intro d hd
    simpa using ne_of_mem_of_not_mem hd h
  have hstop : ∀ d ∈ (c :: after).head?, ¬ decide (d ≠ c) = true := by simp
  exact ⟨takeWhile_append_of_stop hbefore hstop, dropWhile_append_of_stop hbefore hstop⟩

end Runs

/-! ### Decimal numbers -/

/-- A text does not begin with a digit, so a number before it is at its end. -/
def EndsNumber (rest : List Char) : Prop :=
  ∀ c ∈ rest.head?, ¬ c.isDigit

/-- What comes behind a character that is no digit does not matter to a number. -/
lemma endsNumber_append_cons {c : Char} (hc : ¬ c.isDigit) (left rest : List Char) :
    EndsNumber (left ++ c :: rest) ↔ EndsNumber left := by
  cases left with
  | nil =>
      refine iff_of_true ?_ nofun
      rintro d ⟨⟩
      exact hc
  | cons d left => rfl

/-- A number is read up to the last of its digits. -/
lemma readDecimal?_eq_some_iff {text rest : List Char} {n : ℕ} :
    readDecimal? text = some (n, rest)
      ↔ ∃ digits, digits ≠ [] ∧ (∀ c ∈ digits, c.isDigit) ∧ ofDecimal digits = n
        ∧ EndsNumber rest ∧ text = digits ++ rest := by
  constructor
  · intro h
    rw [readDecimal?] at h
    split at h
    · cases h
    · next hne =>
        obtain ⟨rfl, rfl⟩ := Prod.mk.inj (Option.some.inj h)
        exact ⟨text.takeWhile Char.isDigit, hne, fun _ => List.mem_takeWhile_imp, rfl,
          fun _ => not_of_mem_head?_dropWhile, List.takeWhile_append_dropWhile.symm⟩
  · rintro ⟨digits, hne, hdigits, rfl, hrest, rfl⟩
    rw [readDecimal?, takeWhile_append_of_stop hdigits hrest,
      dropWhile_append_of_stop hdigits hrest]
    cases digits with
    | nil => exact absurd rfl hne
    | cons d digits => rfl

end TicksAndWidths.Text
