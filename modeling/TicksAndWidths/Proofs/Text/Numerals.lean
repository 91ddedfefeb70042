import Mathlib.Tactic
import TicksAndWidths.Text.Numeral

/-!
Hexadecimal numerals of a fixed width.

* `length_hex`: a numeral fills the width to which it is padded, unless its number is too large.
* `isHexDigit_of_mem_hex`: it holds digits only.
* `toNat_of_isHexDigit`: the digits are characters of ASCII.
* `scalar?_hex`: **the number of a character gives the character back**, whatever the width.
-/

namespace TicksAndWidths.Text

/-- A numeral fills the width to which it is padded, unless its number is too large for it. -/
lemma length_hex {n : ℕ} (width : ℕ) (hpos : 0 < width) (h : n < 16 ^ width) :
    (hex width n).length = width := by
  rw [hex, List.length_leftpad]
  exact max_eq_left ((Nat.length_toDigits_le_iff (by decide) hpos).mpr h)

/-- Hexadecimal digits stand between the decimal digits and the small letters of ASCII. -/
lemma toNat_of_isHexDigit {c : Char} (h : isHexDigit c) : 0x30 ≤ c.toNat ∧ c.toNat ≤ 0x66 := by
  have hle : ∀ {a b : Char}, a ≤ b ↔ a.toNat ≤ b.toNat := by
    intro a b
    rw [Char.le_def, UInt32.le_iff_toNat_le]
    rfl
  rw [isHexDigit, hexDigit?] at h
  simp only [hle, Char.reduceToNat] at h
  split_ifs at h with hdecimal hsmall hcapital
  · omega
  · omega
  · omega
  · cases h

lemma isHexDigit_digitChar {d : ℕ} (h : d < 16) : isHexDigit d.digitChar := by
  rw [isHexDigit, hexDigit?_digitChar h, Option.isSome_some]

lemma isHexDigit_of_mem_toDigits {n : ℕ} {c : Char} (h : c ∈ Nat.toDigits 16 n) :
    isHexDigit c := by
  induction n using Nat.strongRecOn with
  | ind n ih =>
      rw [Nat.toDigits_eq_if (by decide)] at h
      split at h
      · next hlt =>
          rw [List.mem_singleton.mp h]
          exact isHexDigit_digitChar hlt
      · next hge =>
          rcases List.mem_append.mp h with hinit | hlast
          · exact ih (n / 16) (by omega) hinit
          · rw [List.mem_singleton.mp hlast]
            exact isHexDigit_digitChar (Nat.mod_lt n (by decide))

/-- A hexadecimal numeral holds digits only. -/
lemma isHexDigit_of_mem_hex {width n : ℕ} {c : Char} (h : c ∈ hex width n) : isHexDigit c := by
  rw [hex, List.leftpad, List.mem_append] at h
  rcases h with hpad | hdigit
  · rw [List.eq_of_mem_replicate hpad]
    decide
  · exact isHexDigit_of_mem_toDigits hdigit

/-- **The number of a character gives the character back.** -/
theorem scalar?_hex (width : ℕ) (c : Char) : scalar? (hex width c.toNat) = some c := by
  have hdigits : (hex width c.toNat).all isHexDigit :=
    List.all_eq_true.mpr fun _ => isHexDigit_of_mem_hex
  have hvalid : c.toNat.isValidChar := c.valid
  simp [scalar?, hdigits, hvalid]

end TicksAndWidths.Text
