import Mathlib.Tactic
import TicksAndWidths.Json.Reader
import TicksAndWidths.Proofs.Text.Runs

/-!
Reading numbers, and arrays of numbers.

* `readValue_decimal_append`: a written number is read as that number, unless it runs into another
  digit.
* `readItems_numbers`: numbers with a comma and a space between them are read up to the bracket
  behind them.
* `read_numbers`: **numbers between brackets are read back.**
-/

namespace TicksAndWidths.Json

open Text

/-! ### Blanks -/

lemma skipBlanks_cons_of_blank {c : Char} (h : isBlank c) (text : List Char) :
    skipBlanks (c :: text) = skipBlanks text :=
  List.dropWhile_cons_of_pos h

lemma skipBlanks_cons_of_not_blank {c : Char} (h : ¬ isBlank c) (text : List Char) :
    skipBlanks (c :: text) = c :: text :=
  List.dropWhile_cons_of_neg h

lemma readValue_cons_of_blank {c : Char} (h : isBlank c) (steps : ℕ) (text : List Char) :
    readValue steps (c :: text) = readValue steps text := by
  cases steps with
  | zero => rw [readValue, readValue]
  | succ steps => rw [readValue, readValue, skipBlanks_cons_of_blank h]

lemma readItems_cons_of_blank {c : Char} (h : isBlank c) (steps : ℕ) (text : List Char) :
    readItems steps (c :: text) = readItems steps text := by
  cases steps with
  | zero => rw [readItems, readItems]
  | succ steps => rw [readItems, readItems, readValue_cons_of_blank h]

/-! ### Numbers -/

/-- A written number begins with a digit. -/
lemma exists_decimal_eq_cons (n : ℕ) : ∃ c digits, decimal n = c :: digits ∧ c.isDigit := by
  cases hdecimal : decimal n with
  | nil => exact absurd hdecimal (decimal_ne_nil n)
  | cons c digits => exact ⟨c, digits, rfl, isDigit_of_mem_decimal (n := n) (by simp [hdecimal])⟩

lemma not_isBlank_of_isDigit {c : Char} (h : c.isDigit) : ¬ isBlank c := by
  simp only [isBlank, decide_eq_true_eq]
  rintro (rfl | rfl | rfl | rfl) <;> exact absurd h (by decide)

lemma readNumber_decimal_append (n : ℕ) {rest : List Char}
    (h : ∀ c ∈ rest.head?, ¬ c.isDigit) : readNumber (decimal n ++ rest) = some (n, rest) := by
  have hdigits : (decimal n ++ rest).takeWhile Char.isDigit = decimal n :=
    takeWhile_append_of_stop (fun _ => isDigit_of_mem_decimal) h
  simp [readNumber, readDecimal?_decimal_append n h, hdigits]

/-- A written number is read as that number, unless it runs into another digit. -/
lemma readValue_decimal_append (n steps : ℕ) {rest : List Char}
    (h : ∀ c ∈ rest.head?, ¬ c.isDigit) :
    readValue (steps + 1) (decimal n ++ rest) = some (.number n, rest) := by
  have hnumber := readNumber_decimal_append n h
  obtain ⟨c, digits, hdecimal, hc⟩ := exists_decimal_eq_cons n
  rw [hdecimal, List.cons_append] at hnumber ⊢
  rw [readValue, skipBlanks_cons_of_not_blank (not_isBlank_of_isDigit hc)]
  -- what a digit begins is neither a string nor an array nor an object
  split
  · next heq => exact absurd ((List.cons.inj heq).1 ▸ hc) (by decide)
  · next heq => exact absurd ((List.cons.inj heq).1 ▸ hc) (by decide)
  · next heq => exact absurd ((List.cons.inj heq).1 ▸ hc) (by decide)
  · rw [hnumber]
    rfl

/-! ### Arrays of numbers -/

/-- An array that is not closed at once is read item by item. -/
lemma readValue_bracket {body : List Char} (h : ∀ rest, skipBlanks body ≠ ']' :: rest)
    (steps : ℕ) :
    readValue (steps + 1) ('[' :: body)
      = (readItems steps body).map fun read => (.array read.1, read.2) := by
  have hblank : ¬ isBlank '[' := by decide
  rw [readValue, skipBlanks_cons_of_not_blank hblank]
  simp only
  cases readItems steps body <;> rfl

/-- Numbers with a comma and a space between them. -/
def numbersText (numbers : List ℕ) : List Char :=
  [',', ' '].intercalate (numbers.map decimal)

lemma numbersText_singleton (n : ℕ) : numbersText [n] = decimal n :=
  List.intercalate_singleton

lemma numbersText_cons_cons (n m : ℕ) (ns : List ℕ) :
    numbersText (n :: m :: ns) = decimal n ++ ',' :: ' ' :: numbersText (m :: ns) := by
  simp [numbersText, List.intercalate_cons_cons]

lemma exists_numbersText_eq_cons (n : ℕ) (ns : List ℕ) :
    ∃ c text, numbersText (n :: ns) = c :: text ∧ c.isDigit := by
  obtain ⟨c, digits, hdecimal, hc⟩ := exists_decimal_eq_cons n
  cases ns with
  | nil => exact ⟨c, digits, by rw [numbersText_singleton, hdecimal], hc⟩
  | cons m ns => exact ⟨c, _, by rw [numbersText_cons_cons, hdecimal, List.cons_append], hc⟩

lemma of_mem_numbersText {c : Char} {numbers : List ℕ} (h : c ∈ numbersText numbers) :
    c.isDigit ∨ c = ',' ∨ c = ' ' := by
  induction numbers with
  | nil => cases h
  | cons n ns ih =>
      cases ns with
      | nil =>
          rw [numbersText_singleton] at h
          exact Or.inl (isDigit_of_mem_decimal h)
      | cons m ns =>
          rw [numbersText_cons_cons, List.mem_append, List.mem_cons, List.mem_cons] at h
          rcases h with hdigit | hcomma | hspace | hrest
          · exact Or.inl (isDigit_of_mem_decimal hdigit)
          · exact Or.inr (Or.inl hcomma)
          · exact Or.inr (Or.inr hspace)
          · exact ih hrest

/-- Every number takes a character at least. -/
lemma length_le_length_numbersText (numbers : List ℕ) :
    numbers.length ≤ (numbersText numbers).length := by
  induction numbers with
  | nil => simp
  | cons n ns ih =>
      have hpos := List.length_pos_iff.mpr (decimal_ne_nil n)
      cases ns with
      | nil =>
          rw [numbersText_singleton, List.length_singleton]
          omega
      | cons m ns =>
          simp only [numbersText_cons_cons, List.length_append, List.length_cons] at ih ⊢
          omega

/-- Numbers with a comma and a space between them are read up to the bracket behind them. -/
lemma readItems_numbers (n : ℕ) (ns : List ℕ) (rest : List Char) {steps : ℕ}
    (h : ns.length + 2 ≤ steps) :
    readItems steps (numbersText (n :: ns) ++ ']' :: rest)
      = some ((n :: ns).map Value.number, rest) := by
  induction ns generalizing n steps with
  | nil =>
      obtain ⟨k, rfl⟩ : ∃ k, steps = k + 1 + 1 := ⟨steps - 2, by omega⟩
      rw [numbersText_singleton, readItems, readValue_decimal_append n k (by simp)]
      rfl
  | cons m ns ih =>
      rw [List.length_cons] at h
      obtain ⟨k, rfl⟩ : ∃ k, steps = k + 1 + 1 := ⟨steps - 2, by omega⟩
      have hitems : readItems (k + 1) (' ' :: (numbersText (m :: ns) ++ ']' :: rest))
          = some ((m :: ns).map Value.number, rest) := by
        rw [readItems_cons_of_blank rfl]
        exact ih m (by omega)
      rw [numbersText_cons_cons, List.append_assoc, List.cons_append, List.cons_append, readItems,
        readValue_decimal_append n k (by simp)]
      -- the comma behind the first number leads to the others
      show (readItems (k + 1) _ >>= fun read => some (Value.number n :: read.1, read.2)) = _
      rw [hitems]
      rfl

/-- **Numbers between brackets are read back.** -/
theorem read_numbers (numbers : List ℕ) :
    Value.read ('[' :: (numbersText numbers ++ [']'])) = some (.array (numbers.map .number)) := by
  cases numbers with
  | nil => rfl
  | cons n ns =>
      have hopen : ∀ rest, skipBlanks (numbersText (n :: ns) ++ [']']) ≠ ']' :: rest := by
        obtain ⟨c, text, htext, hc⟩ := exists_numbersText_eq_cons n ns
        intro rest heq
        have hblank := not_isBlank_of_isDigit hc
        rw [htext, List.cons_append, skipBlanks_cons_of_not_blank hblank] at heq
        exact absurd ((List.cons.inj heq).1 ▸ hc) (by decide)
      have hsteps : ns.length + 2 ≤ (numbersText (n :: ns) ++ [']']).length + 1 := by
        have hlen := length_le_length_numbersText (n :: ns)
        rw [List.length_cons] at hlen
        rw [List.length_append, List.length_singleton]
        omega
      rw [Value.read, List.length_cons, readValue_bracket hopen, readItems_numbers n ns [] hsteps]
      rfl

end TicksAndWidths.Json
