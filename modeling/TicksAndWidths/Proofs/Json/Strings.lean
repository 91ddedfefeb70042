import Mathlib.Tactic
import TicksAndWidths.Json.Printer
import TicksAndWidths.Json.Reader
import TicksAndWidths.Proofs.Text.Numerals

/-!
Reading JSON strings back.

* `readBody_mark`, `readBody_numeric`, `readBody_plain`, `readBody_escape_append`: one escaped
  character is read as that character, and the reading goes on behind it.
* `readBody_flatMap_escape`: **an escaped text is read back** up to its closing quote.
-/

namespace TicksAndWidths.Json

open Text

/-! ### One character -/

/-- A mark behind a backslash is read as the character that it stands for. -/
lemma readBody_mark {mark c : Char} (h : unescape mark = some c) (rest : List Char) :
    readBody ('\\' :: mark :: rest) = (readBody rest).map fun read => (c :: read.1, read.2) := by
  have hnumeric : mark ≠ 'u' := by
    rintro rfl
    cases h
  simp [readBody, hnumeric, h, Option.map_eq_bind]

/-- A control character written by its number is read as that character. -/
lemma readBody_numeric {c : Char} (h : c.toNat < 0x20) (rest : List Char) :
    readBody ('\\' :: 'u' :: (hex 4 c.toNat ++ rest))
      = (readBody rest).map fun read => (c :: read.1, read.2) := by
  have hlen : (hex 4 c.toNat).length = 4 := length_hex 4 (by decide) (by omega)
  have hread := scalar?_hex 4 c
  match hex 4 c.toNat, hlen, hread with
  | [a, b, c, d], _, hread => simp [readBody, hread, Option.map_eq_bind]

/-- Any other character stands for itself. -/
lemma readBody_plain {c : Char} (hquote : c ≠ '"') (hback : c ≠ '\\') (hcontrol : ¬ c.toNat < 0x20)
    (rest : List Char) :
    readBody (c :: rest) = (readBody rest).map fun read => (c :: read.1, read.2) := by
  simp [readBody, hback, hcontrol, Option.map_eq_bind]

/-- An escaped character is read as that character. -/
lemma readBody_escape_append (c : Char) (rest : List Char) :
    readBody (escape c ++ rest) = (readBody rest).map fun read => (c :: read.1, read.2) := by
  rw [escape]
  split_ifs with hquote hback hbackspace htab hnewline hpage hreturn hcontrol
  · exact readBody_mark (by rw [hquote]; rfl) rest
  · exact readBody_mark (by rw [hback]; rfl) rest
  · exact readBody_mark (by rw [hbackspace]; rfl) rest
  · exact readBody_mark (by rw [htab]; rfl) rest
  · exact readBody_mark (by rw [hnewline]; rfl) rest
  · exact readBody_mark (by rw [hpage]; rfl) rest
  · exact readBody_mark (by rw [hreturn]; rfl) rest
  · exact readBody_numeric hcontrol rest
  · exact readBody_plain hquote hback hcontrol rest

/-! ### A whole string -/

/-- **An escaped text is read back**, and the reading ends at the closing quote. -/
theorem readBody_flatMap_escape (text rest : List Char) :
    readBody (text.flatMap escape ++ '"' :: rest) = some (text, rest) := by
  induction text with
  | nil => rfl
  | cons c text ih =>
      rw [List.flatMap_cons, List.append_assoc, readBody_escape_append, ih]
      rfl

end TicksAndWidths.Json
