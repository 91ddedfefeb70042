import Mathlib.Tactic
import TicksAndWidths.Table.Row

/-!
The index of a row.

* `stray?`, `indexDigits`: the character that spoils the index of a line, and the digits that spell
  it, read off the line.
* `foldlM_appendDigit_of_stray`: the first character that is no digit ends the reading.
* `foldlM_appendDigit`: digits are read without losing a bit, as long as a byte can hold them.
* `readIndex_of_stray` and `readIndex_of_clean`: **an index is the value of its digits**, which is
  below 64, unless a character spoils it.
* `readIndex_eq_ok_iff_of_take_eq`: what stands behind the first six characters has no part in it.
* `spelled`: the number that binary digits spell place by place, to which appending them one by one
  amounts (`ofDigitChars_eq_spelled`).
* `toNat_shiftLeft_of_digits`: no shift in reading an index drops a bit.
* `readIndex_spelled_by_prefix`: **an index is the number that the first six characters spell**.
-/

namespace TicksAndWidths.Table

open Text

/-! ### What a line says about its index -/

/-- Whether a character has no place in an index. -/
def isStray (c : Char) : Bool :=
  c ≠ '0' ∧ c ≠ '1' ∧ c ≠ ' '

/-- The first character that spoils the index of a line. -/
def stray? (line : String) : Option Char :=
  (line.toList.take indexWidth).find? isStray

/-- The characters among the first six of a line that are not spaces. -/
def indexDigits (line : String) : List Char :=
  (line.toList.take indexWidth).filter (· ≠ ' ')

lemma isStray_iff (c : Char) : isStray c ↔ c ∉ ['0', '1', ' '] := by
  simp [isStray]

lemma stray?_eq_none_iff (line : String) :
    stray? line = none ↔ ∀ c ∈ line.toList.take indexWidth, c ∈ ['0', '1', ' '] := by
  simp only [stray?, List.find?_eq_none, isStray_iff, not_not]

lemma stray?_eq_some_iff (line : String) (c : Char) :
    stray? line = some c ↔ c ∉ ['0', '1', ' '] ∧ ∃ before after,
      line.toList.take indexWidth = before ++ c :: after ∧ ∀ d ∈ before, d ∈ ['0', '1', ' '] := by
  simp only [stray?, List.find?_eq_some_iff_append, isStray_iff, Bool.not_eq_true',
    ← Bool.not_eq_true, not_not]

lemma length_indexDigits_le (line : String) : (indexDigits line).length ≤ 6 :=
  (List.length_filter_le _ _).trans (List.length_take_le _ _)

/-- A character spoils an index when it is the first of its digits that is none. -/
lemma find?_indexDigits (line : String) :
    (indexDigits line).find? (fun c => c ≠ '0' ∧ c ≠ '1') = stray? line := by
  rw [indexDigits, List.find?_filter, stray?]
  congr 1
  funext c
  rw [Bool.eq_iff_iff]
  simp only [isStray, decide_eq_true_eq]
  tauto

/-- Digits are binary when none of them is anything else. -/
lemma forall_binary_iff {digits : List Char} :
    (∀ d ∈ digits, d = '0' ∨ d = '1')
      ↔ digits.find? (fun c => c ≠ '0' ∧ c ≠ '1') = none := by
  simp only [List.find?_eq_none, decide_eq_true_eq]
  exact forall₂_congr fun d _ => by tauto

/-! ### Appending digits -/

lemma appendDigit_of_stray {c : Char} (h : c ≠ '0' ∧ c ≠ '1') (line : String) (index : UInt8) :
    appendDigit line index c = .error (.invalidDigit line c) := by
  rw [appendDigit, if_neg h.1, if_neg h.2]

/-- The first character that is no digit ends the reading. -/
lemma foldlM_appendDigit_of_stray {digits : List Char} {c : Char}
    (h : digits.find? (fun c => c ≠ '0' ∧ c ≠ '1') = some c) (line : String) (index : UInt8) :
    digits.foldlM (appendDigit line) index = .error (.invalidDigit line c) := by
  induction digits generalizing index with
  | nil => cases h
  | cons d digits ih =>
      rw [List.foldlM_cons]
      by_cases hd : d ≠ '0' ∧ d ≠ '1'
      · rw [List.find?_cons_of_pos (by simpa using hd)] at h
        cases h
        rw [appendDigit_of_stray hd]
        rfl
      · rw [List.find?_cons_of_neg (by simpa using hd)] at h
        have hbinary : d = '0' ∨ d = '1' := by tauto
        rcases hbinary with rfl | rfl
        · exact ih h (index <<< 1)
        · exact ih h (index <<< 1 ||| 1)

lemma toNat_shiftLeft_one {index : UInt8} (h : index.toNat < 128) :
    (index <<< 1).toNat = 2 * index.toNat := by
  simp only [UInt8.toNat_shiftLeft, Nat.shiftLeft_eq, UInt8.reduceToNat, Nat.reduceMod]
  omega

/-- A digit is appended without losing a bit when half of the byte is free. -/
lemma appendDigit_of_binary {index : UInt8} {d : Char} (hindex : index.toNat < 128)
    (hd : d = '0' ∨ d = '1') (line : String) :
    ∃ next, appendDigit line index d = .ok next
      ∧ next.toNat = 2 * index.toNat + (d.toNat - '0'.toNat)
      ∧ next.toNat < 2 * (index.toNat + 1) := by
  have hshift := toNat_shiftLeft_one hindex
  rcases hd with rfl | rfl
  · refine ⟨index <<< 1, rfl, by rw [hshift]; rfl, by omega⟩
  · have hnext : (index <<< 1 ||| 1).toNat = 2 * index.toNat + 1 := by
      rw [UInt8.toNat_or, hshift]
      exact (Nat.two_pow_add_eq_or_of_lt (i := 1) (b := 1) (by decide) index.toNat).symm
    exact ⟨index <<< 1 ||| 1, rfl, by rw [hnext]; rfl, by omega⟩

/-- Digits are read without losing a bit, as long as a byte can hold them. -/
lemma foldlM_appendDigit {digits : List Char} {index : UInt8}
    (h : ∀ d ∈ digits, d = '0' ∨ d = '1')
    (room : 2 ^ digits.length * (index.toNat + 1) ≤ 256) (line : String) :
    ∃ result, digits.foldlM (appendDigit line) index = .ok result
      ∧ result.toNat = Nat.ofDigitChars 2 digits index.toNat
      ∧ result.toNat < 2 ^ digits.length * (index.toNat + 1) := by
  induction digits generalizing index with
  | nil => exact ⟨index, rfl, rfl, by simp⟩
  | cons d digits ih =>
      rw [List.length_cons, pow_succ, mul_assoc] at room ⊢
      have hindex : index.toNat < 128 := by
        have hle := Nat.le_mul_of_pos_left (2 * (index.toNat + 1)) (Nat.two_pow_pos digits.length)
        omega
      obtain ⟨next, hnext, hvalue, hlt⟩ :=
        appendDigit_of_binary hindex (h d List.mem_cons_self) line
      -- the other digits have the room that this one leaves
      have hroom : 2 ^ digits.length * (next.toNat + 1)
          ≤ 2 ^ digits.length * (2 * (index.toNat + 1)) :=
        Nat.mul_le_mul_left _ hlt
      obtain ⟨result, hresult, hdigits, hbound⟩ :=
        ih (fun c hc => h c (List.mem_cons_of_mem d hc)) (hroom.trans room)
      refine ⟨result, ?_, ?_, hbound.trans_le hroom⟩
      · rw [List.foldlM_cons, hnext]
        exact hresult
      · rw [hdigits, hvalue, Nat.ofDigitChars_cons]

/-! ### Reading the index -/

/-- A line whose index is spoiled has none, and the failure names the line and the character. -/
lemma readIndex_of_stray {line : String} {c : Char} (h : stray? line = some c) :
    readIndex line = .error (.invalidDigit line c) :=
  foldlM_appendDigit_of_stray (by rw [← h, ← find?_indexDigits]; rfl) line 0

/-- **An index that nothing spoils is the value of its digits**, which is below 64. -/
theorem readIndex_of_clean {line : String} (h : stray? line = none) :
    ∃ index, readIndex line = .ok index
      ∧ index.toNat = Nat.ofDigitChars 2 (indexDigits line) 0 ∧ index.toNat < 64 := by
  have hpow : 2 ^ (indexDigits line).length ≤ 2 ^ 6 :=
    Nat.pow_le_pow_right (by decide) (length_indexDigits_le line)
  have hbinary : ∀ d ∈ indexDigits line, d = '0' ∨ d = '1' :=
    forall_binary_iff.mpr ((find?_indexDigits line).trans h)
  obtain ⟨index, hindex, hvalue, hlt⟩ :=
    foldlM_appendDigit hbinary (by rw [UInt8.toNat_zero]; omega) line
  rw [UInt8.toNat_zero] at hvalue hlt
  exact ⟨index, hindex, hvalue, by omega⟩

/-- Whether a line has an index, and which, depends on its first six characters alone. -/
lemma readIndex_eq_ok_iff_of_take_eq {line line' : String}
    (h : line.toList.take indexWidth = line'.toList.take indexWidth) {index : UInt8} :
    readIndex line = .ok index ↔ readIndex line' = .ok index := by
  have hstray : stray? line = stray? line' := by rw [stray?, stray?, h]
  have hdigits : indexDigits line = indexDigits line' := by rw [indexDigits, indexDigits, h]
  cases hline : stray? line with
  | some c => simp [readIndex_of_stray hline, readIndex_of_stray (hstray ▸ hline)]
  | none =>
      obtain ⟨i, hi, hvalue, -⟩ := readIndex_of_clean hline
      obtain ⟨i', hi', hvalue', -⟩ := readIndex_of_clean (hstray ▸ hline)
      have hsame : i = i' := by rw [← UInt8.toNat_inj, hvalue, hvalue', hdigits]
      rw [hi, hi', hsame]

/-! ### The number that a prefix spells -/

/-- The number that binary digits spell, the last of them in the place of the ones. -/
def spelled (digits : List Char) : Nat :=
  Nat.ofDigits 2 (digits.reverse.map fun d => if d = '1' then 1 else 0)

lemma spelled_cons (d : Char) (digits : List Char) :
    spelled (d :: digits)
      = spelled digits + 2 ^ digits.length * if d = '1' then 1 else 0 := by
  rw [spelled, spelled, List.map_reverse, List.map_reverse, List.map_cons,
    Nat.ofDigits_reverse_cons, List.length_map]

/-- Digits that are appended to a number one by one count by their places. -/
lemma ofDigitChars_eq_spelled {digits : List Char} (h : ∀ d ∈ digits, d = '0' ∨ d = '1')
    (start : Nat) :
    Nat.ofDigitChars 2 digits start = spelled digits + 2 ^ digits.length * start := by
  induction digits generalizing start with
  | nil => simp [spelled]
  | cons d digits ih =>
      have hdigit : d.toNat - '0'.toNat = if d = '1' then 1 else 0 := by
        rcases h d List.mem_cons_self with rfl | rfl <;> rfl
      rw [Nat.ofDigitChars_cons, ih fun c hc => h c (List.mem_cons_of_mem d hc), hdigit,
        spelled_cons, List.length_cons]
      ring

/-- **No shift drops a bit**: what has been read before a digit of an index leaves half of the byte
free, in every line. -/
lemma toNat_shiftLeft_of_digits {line : String} {before after : List Char} {d : Char}
    (h : indexDigits line = before ++ d :: after) {index : UInt8}
    (hbefore : before.foldlM (appendDigit line) 0 = .ok index) :
    (index <<< 1).toNat = 2 * index.toNat := by
  have hbinary : ∀ c ∈ before, c = '0' ∨ c = '1' := by
    rw [forall_binary_iff, Option.eq_none_iff_forall_ne_some]
    intro c hc
    rw [foldlM_appendDigit_of_stray hc] at hbefore
    cases hbefore
  have hshort : before.length ≤ 5 := by
    have hle := length_indexDigits_le line
    rw [h, List.length_append, List.length_cons] at hle
    omega
  have hpow : 2 ^ before.length ≤ 2 ^ 5 := Nat.pow_le_pow_right (by decide) hshort
  obtain ⟨result, hresult, -, hlt⟩ :=
    foldlM_appendDigit hbinary (by rw [UInt8.toNat_zero]; omega) line
  obtain rfl : result = index := Except.ok.inj (hresult.symm.trans hbefore)
  rw [UInt8.toNat_zero] at hlt
  exact toNat_shiftLeft_one (by omega)

/-- A line has an index exactly if nothing spoils it. -/
lemma exists_readIndex_iff (line : String) :
    (∃ index, readIndex line = .ok index) ↔ stray? line = none := by
  constructor
  · rintro ⟨index, hindex⟩
    by_contra hne
    obtain ⟨c, hc⟩ := Option.ne_none_iff_exists'.mp hne
    rw [readIndex_of_stray hc] at hindex
    cases hindex
  · intro hclean
    obtain ⟨index, hindex, -⟩ := readIndex_of_clean hclean
    exact ⟨index, hindex⟩

/-- A failure to read an index names the line and what spoils it. -/
lemma readIndex_eq_error_iff (line : String) (fault : Error) :
    readIndex line = .error fault ↔ ∃ c, stray? line = some c ∧ fault = .invalidDigit line c := by
  constructor
  · intro hfault
    cases hstray : stray? line with
    | none =>
        obtain ⟨index, hindex⟩ := (exists_readIndex_iff line).mpr hstray
        rw [hindex] at hfault
        cases hfault
    | some c =>
        rw [readIndex_of_stray hstray] at hfault
        exact ⟨c, rfl, (Except.error.inj hfault).symm⟩
  · rintro ⟨c, hc, rfl⟩
    exact readIndex_of_stray hc

/-- The index of a line is the number that its digits spell. -/
lemma toNat_eq_spelled {line : String} {index : UInt8} (h : readIndex line = .ok index) :
    index.toNat = spelled (indexDigits line) ∧ index.toNat ≤ 63 := by
  have hclean := (exists_readIndex_iff line).mp ⟨index, h⟩
  obtain ⟨result, hresult, hvalue, hlt⟩ := readIndex_of_clean hclean
  obtain rfl : result = index := Except.ok.inj (hresult.symm.trans h)
  have hbinary := forall_binary_iff.mpr ((find?_indexDigits line).trans hclean)
  exact ⟨by rw [hvalue, ofDigitChars_eq_spelled hbinary, Nat.mul_zero, Nat.add_zero], by omega⟩

/-- **An index is the number that the first six characters of its line spell.**  It is read exactly
if they are binary digits and spaces, and no shift drops a bit; otherwise the failure names the line
and the first of them that is neither.  What stands behind them has no part in it. -/
theorem readIndex_spelled_by_prefix (line : String) :
    ((∃ index, readIndex line = .ok index) ↔ ∀ c ∈ line.toList.take 6, c ∈ ['0', '1', ' '])
      ∧ (∀ index, readIndex line = .ok index →
          index.toNat = spelled ((line.toList.take 6).filter (· ≠ ' ')) ∧ index.toNat ≤ 63)
      ∧ (∀ fault, readIndex line = .error fault
          ↔ ∃ c, fault = .invalidDigit line c ∧ c ∉ ['0', '1', ' '] ∧ ∃ before after,
            line.toList.take 6 = before ++ c :: after ∧ ∀ d ∈ before, d ∈ ['0', '1', ' '])
      ∧ (∀ (before after : List Char) (d : Char) (index : UInt8),
          (line.toList.take 6).filter (· ≠ ' ') = before ++ d :: after →
          before.foldlM (appendDigit line) 0 = .ok index → (index <<< 1).toNat = 2 * index.toNat)
      ∧ ∀ other : String, other.toList.take 6 = line.toList.take 6 →
          ∀ index, readIndex other = .ok index ↔ readIndex line = .ok index := by
  refine ⟨?_, fun index => toNat_eq_spelled, fun fault => ?_,
    fun before after d index hdigits hbefore => toNat_shiftLeft_of_digits hdigits hbefore,
    fun other hsame index => readIndex_eq_ok_iff_of_take_eq hsame⟩
  · rw [exists_readIndex_iff, stray?_eq_none_iff]
    rfl
  · rw [readIndex_eq_error_iff]
    refine exists_congr fun c => ?_
    rw [stray?_eq_some_iff, and_comm]
    rfl

/-- The digits of an index may stand apart, the rest of the line is free, and a digit of another
script is none. -/
theorem readIndex_spelled_by_prefix_spaced :
    readIndex "1 01 1011 (0B)" = .ok 11
      ∧ readIndex "0 1１1" = .error (.invalidDigit "0 1１1" '１') := by
  obtain ⟨hexists, hvalue, -⟩ := readIndex_spelled_by_prefix "1 01 1011 (0B)"
  obtain ⟨-, -, hfault, -⟩ := readIndex_spelled_by_prefix "0 1１1"
  obtain ⟨index, hindex⟩ := hexists.mpr ((stray?_eq_none_iff _).mp (by decide +kernel))
  have heleven : index = 11 :=
    UInt8.toNat_inj.mp ((hvalue index hindex).1.trans (by decide +kernel))
  exact ⟨hindex.trans (congrArg _ heleven),
    (hfault _).mpr ⟨'１', rfl, by decide, ['0', ' ', '1'], ['1'], by decide +kernel, by simp⟩⟩

end TicksAndWidths.Table
