/-!
Numerals: natural numbers written in decimal and in hexadecimal digits, and read back.

`readDecimal?_decimal_append` and `ofHex_hex` say that reading a written numeral gives the number
back, whatever follows it and whatever the padding.
-/

namespace TicksAndWidths.Text

/-! ### Decimal -/

/-- The decimal digits of a number, without leading zeros. -/
def decimal (n : Nat) : List Char :=
  Nat.toDigits 10 n

/-- The number that decimal digits stand for. -/
def ofDecimal (digits : List Char) : Nat :=
  Nat.ofDigitChars 10 digits 0

@[simp] theorem ofDecimal_decimal (n : Nat) : ofDecimal (decimal n) = n :=
  Nat.ofDigitChars_toDigits (by decide) (by decide)

/-- A written number holds digits only. -/
theorem isDigit_of_mem_decimal {n : Nat} {c : Char} (h : c ∈ decimal n) : c.isDigit :=
  Nat.isDigit_of_mem_toDigits (by decide) (by decide) h

theorem decimal_ne_nil (n : Nat) : decimal n ≠ [] := by
  intro h
  have := Nat.length_toDigits_pos (b := 10) (n := n)
  rw [decimal] at h
  simp [h] at this

/-- Reads the decimal number at the front of a text, and returns it with what follows its last
digit. -/
def readDecimal? (text : List Char) : Option (Nat × List Char) :=
  match text.takeWhile Char.isDigit with
  | [] => none
  | digits => some (ofDecimal digits, text.dropWhile Char.isDigit)

/-- A written number is read back, unless it runs into another digit. -/
theorem readDecimal?_decimal_append (n : Nat) {rest : List Char}
    (h : ∀ c ∈ rest.head?, ¬ c.isDigit) : readDecimal? (decimal n ++ rest) = some (n, rest) := by
  have digits : ∀ c ∈ decimal n, c.isDigit := fun _ => isDigit_of_mem_decimal
  have stop : rest.takeWhile Char.isDigit = [] ∧ rest.dropWhile Char.isDigit = rest := by
    cases rest with
    | nil => simp
    | cons c rest => simp [h c rfl]
  simp only [readDecimal?, List.takeWhile_append_of_pos digits,
    List.dropWhile_append_of_pos digits, stop, List.append_nil]
  split
  · next empty => exact absurd empty (decimal_ne_nil n)
  · simp

/-! ### Hexadecimal -/

/-- The value of a hexadecimal digit of either case. -/
def hexDigit? (c : Char) : Option Nat :=
  if '0' ≤ c ∧ c ≤ '9' then some (c.toNat - '0'.toNat)
  else if 'a' ≤ c ∧ c ≤ 'f' then some (c.toNat - 'a'.toNat + 10)
  else if 'A' ≤ c ∧ c ≤ 'F' then some (c.toNat - 'A'.toNat + 10)
  else none

/-- Whether a character is a hexadecimal digit. -/
def isHexDigit (c : Char) : Bool :=
  (hexDigit? c).isSome

/-- The number that hexadecimal digits stand for. -/
def ofHex (digits : List Char) : Nat :=
  digits.foldl (fun n c => 16 * n + (hexDigit? c).getD 0) 0

/-- The hexadecimal digits of a number in lower case, filled up with zeros to a width. -/
def hex (width n : Nat) : List Char :=
  (Nat.toDigits 16 n).leftpad width '0'

/-- The hexadecimal digits of a number in upper case, filled up with zeros to a width. -/
def upperHex (width n : Nat) : List Char :=
  (hex width n).map Char.toUpper

theorem hexDigit?_digitChar {d : Nat} (h : d < 16) : hexDigit? d.digitChar = some d := by
  have : ∀ d : Fin 16, hexDigit? d.val.digitChar = some d.val := by decide
  exact this ⟨d, h⟩

theorem ofHex_append_singleton (digits : List Char) (c : Char) :
    ofHex (digits ++ [c]) = 16 * ofHex digits + (hexDigit? c).getD 0 := by
  simp [ofHex]

theorem ofHex_toDigits (n : Nat) : ofHex (Nat.toDigits 16 n) = n := by
  induction n using Nat.strongRecOn with
  | ind n ih =>
    rw [Nat.toDigits_eq_if (by decide)]
    split
    · next h => simp [ofHex, hexDigit?_digitChar h]
    · next h =>
      rw [ofHex_append_singleton, ih (n / 16) (by omega),
        hexDigit?_digitChar (Nat.mod_lt _ (by decide)), Option.getD_some]
      omega

/-- Zeros in front do not change the number that digits stand for. -/
theorem ofHex_zeros_append (k : Nat) (digits : List Char) :
    ofHex (List.replicate k '0' ++ digits) = ofHex digits := by
  induction k with
  | zero => rfl
  | succ k ih => simpa [List.replicate_succ, ofHex, hexDigit?] using ih

@[simp] theorem ofHex_hex (width n : Nat) : ofHex (hex width n) = n := by
  rw [hex, List.leftpad, ofHex_zeros_append, ofHex_toDigits]

/-- The character with the number that hexadecimal digits stand for. -/
def scalar? (digits : List Char) : Option Char :=
  if digits.all isHexDigit then
    let n := ofHex digits
    if n.isValidChar then some (Char.ofNat n) else none
  else none

end TicksAndWidths.Text
