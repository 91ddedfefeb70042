import Mathlib.Tactic
import TicksAndWidths.Proofs.Text.Numerals
import TicksAndWidths.Text.Quoted

/-!
Reading string literals back.

Everything here holds whichever characters count as printable.

* `decodeBody_mark`, `decodeBody_numeric_append`, `decodeBody_escape_append`: one escaped character
  is read as that character, and the reading goes on behind it.
* `newline_notMem_encode`: a literal stands on one line.
* `decode_encode_append`: **a literal is read back as its text**, and ends at its closing quote.
-/

namespace TicksAndWidths.Text.Quoted

/-! ### One character -/

/-- The marks that stand for a character behind a backslash, each with its character. -/
def marks : List (Char × Char) :=
  [('\\', '\\'), ('\'', '\''), ('"', '"'), ('n', '\n'), ('r', '\r'), ('t', '\t')]

/-- A mark behind a backslash is read as its character. -/
lemma decodeBody_mark {mark c : Char} (h : (mark, c) ∈ marks) (quote : Char) (rest : List Char) :
    decodeBody quote ('\\' :: mark :: rest)
      = (decodeBody quote rest).map fun read => (c :: read.1, read.2) := by
  simp only [marks, List.mem_cons, Prod.mk.injEq, List.not_mem_nil, or_false] at h
  rcases h with ⟨rfl, rfl⟩ | ⟨rfl, rfl⟩ | ⟨rfl, rfl⟩ | ⟨rfl, rfl⟩ | ⟨rfl, rfl⟩ | ⟨rfl, rfl⟩ <;>
    simp [decodeBody, Option.map_eq_bind]

/-- A character written by its number is read as that character. -/
lemma decodeBody_numeric_append (quote c : Char) (rest : List Char) :
    decodeBody quote (numeric c ++ rest)
      = (decodeBody quote rest).map fun read => (c :: read.1, read.2) := by
  rw [numeric]
  split_ifs with htwo hfour
  · have hlen := length_hex 2 (by decide) htwo
    have hread := scalar?_hex 2 c
    match hex 2 c.toNat, hlen, hread with
    | [a, b], _, hread => simp [decodeBody, hread, Option.map_eq_bind]
  · have hlen := length_hex 4 (by decide) hfour
    have hread := scalar?_hex 4 c
    match hex 4 c.toNat, hlen, hread with
    | [a, b, c, d], _, hread => simp [decodeBody, hread, Option.map_eq_bind]
  · -- the number of a character has 32 bits
    have hlen := length_hex 8 (by decide) c.val.toNat_lt
    have hread := scalar?_hex 8 c
    match hex 8 c.toNat, hlen, hread with
    | [a, b, c, d, e, f, g, h], _, hread =>
        simp [decodeBody, hread, Option.map_eq_bind]

/-- A character that is neither the closing quote nor special stands for itself. -/
lemma decodeBody_plain {quote c : Char} (hquote : c ≠ quote) (hback : c ≠ '\\')
    (hnewline : c ≠ '\n') (rest : List Char) :
    decodeBody quote (c :: rest)
      = (decodeBody quote rest).map fun read => (c :: read.1, read.2) := by
  simp [decodeBody, hquote, hback, hnewline, Option.map_eq_bind]

variable (printable : Char → Bool)

/-- An escaped character is read as that character. -/
lemma decodeBody_escape_append {quote : Char} (hquote : quote = '\'' ∨ quote = '"') (c : Char)
    (rest : List Char) :
    decodeBody quote (escape printable quote c ++ rest)
      = (decodeBody quote rest).map fun read => (c :: read.1, read.2) := by
  rw [escape]
  split_ifs with hback hnewline hreturn htab hdelim hprint
  · exact decodeBody_mark (by simp [marks, hback]) quote rest
  · exact decodeBody_mark (by simp [marks, hnewline]) quote rest
  · exact decodeBody_mark (by simp [marks, hreturn]) quote rest
  · exact decodeBody_mark (by simp [marks, htab]) quote rest
  · subst hdelim
    exact decodeBody_mark (by rcases hquote with rfl | rfl <;> simp [marks]) c rest
  · exact decodeBody_plain hdelim hback hnewline rest
  · exact decodeBody_numeric_append quote c rest

/-! ### A whole literal -/

lemma delimiter_eq_or (text : List Char) : delimiter text = '\'' ∨ delimiter text = '"' := by
  rw [delimiter]
  split
  · exact Or.inr rfl
  · exact Or.inl rfl

/-- Escaped text is read up to the closing quote. -/
lemma decodeBody_flatMap_escape {quote : Char} (hquote : quote = '\'' ∨ quote = '"')
    (text rest : List Char) :
    decodeBody quote (text.flatMap (escape printable quote) ++ quote :: rest)
      = some (text, rest) := by
  induction text with
  | nil => rcases hquote with rfl | rfl <;> simp [decodeBody]
  | cons c text ih =>
      rw [List.flatMap_cons, List.append_assoc, decodeBody_escape_append printable hquote, ih]
      rfl

/-- **A literal is read back as its text**, and the reading ends at its closing quote. -/
theorem decode_encode_append (text rest : List Char) :
    decode (encode printable text ++ rest) = some (text, rest) := by
  have hdelimiter := delimiter_eq_or text
  have hbody := decodeBody_flatMap_escape printable hdelimiter text rest
  rw [encode, List.cons_append, List.append_assoc, List.singleton_append]
  rcases hdelimiter with hquote | hquote <;>
    · rw [hquote] at hbody ⊢
      exact hbody

/-! ### Line breaks -/

lemma newline_notMem_numeric (c : Char) : '\n' ∉ numeric c := by
  have hhex : ∀ width n, '\n' ∉ hex width n := fun width n hmem =>
    absurd (isHexDigit_of_mem_hex hmem) (by decide)
  rw [numeric]
  split_ifs <;> simp [hhex]

/-- Escaping leaves no line break, as long as the quotes are none. -/
lemma newline_notMem_escape {quote : Char} (hquote : quote ≠ '\n') (c : Char) :
    '\n' ∉ escape printable quote c := by
  rw [escape]
  split_ifs with _ hnewline _ _ hdelim
  · simp
  · simp
  · simp
  · simp
  · simpa [hdelim] using hquote.symm
  · simpa using Ne.symm hnewline
  · exact newline_notMem_numeric c

/-- A literal stands on one line. -/
lemma newline_notMem_encode (text : List Char) : '\n' ∉ encode printable text := by
  have hquote : delimiter text ≠ '\n' := by
    rcases delimiter_eq_or text with h | h <;> rw [h] <;> decide
  rw [encode, List.mem_cons, List.mem_append, List.mem_flatMap, List.mem_singleton]
  rintro (hopen | ⟨c, -, hc⟩ | hclose)
  · exact hquote hopen.symm
  · exact newline_notMem_escape printable hquote c hc
  · exact hquote hclose.symm

end TicksAndWidths.Text.Quoted
