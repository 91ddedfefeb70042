import Mathlib.Tactic
import TicksAndWidths.Proofs.Text.Literals
import TicksAndWidths.Unicode.Printable

/-!
What a string literal is made of.

Beyond ASCII it is open which characters count as printable (`AgreesOnAscii`).

* `unescaped`: the characters of a literal that no backslash escapes.
* `unescaped_flatMap_escape_append`: an escaped text has no delimiter that is not escaped, and
  escapes nothing behind it.
* `AgreesOnAscii.of_mem_encode`: a literal holds printable characters only.
* `encode_isQuotation`: **a literal is a printable quotation of its text**, which gives the text
  back and ends at its last character.
-/

namespace TicksAndWidths.Text.Quoted

open Unicode

/-! ### Escaped characters -/

/-- The characters that no backslash escapes. -/
def unescaped : List Char → List Char
  | [] => []
  | '\\' :: _ :: rest => unescaped rest
  | c :: rest => c :: unescaped rest

lemma unescaped_backslash (c : Char) (rest : List Char) :
    unescaped ('\\' :: c :: rest) = unescaped rest := by
  rw [unescaped]

lemma unescaped_cons {c : Char} (h : c ≠ '\\') (rest : List Char) :
    unescaped (c :: rest) = c :: unescaped rest := by
  simp [unescaped, h]

/-- Where there is no backslash nothing is escaped. -/
lemma unescaped_append_of_notMem {plain : List Char} (h : '\\' ∉ plain) (rest : List Char) :
    unescaped (plain ++ rest) = plain ++ unescaped rest := by
  induction plain with
  | nil => rfl
  | cons c plain ih =>
      rw [List.mem_cons, not_or] at h
      rw [List.cons_append, unescaped_cons (Ne.symm h.1), ih h.2, List.cons_append]

lemma backslash_notMem_hex (width n : ℕ) : '\\' ∉ hex width n :=
  fun h => absurd (isHexDigit_of_mem_hex h) (by decide)

/-- The number of an escaped character is what is left of its escape. -/
lemma exists_unescaped_numeric_append (c : Char) :
    ∃ width, ∀ rest, unescaped (numeric c ++ rest) = hex width c.toNat ++ unescaped rest := by
  have hmark : ∀ (mark : Char) (width : ℕ) (rest : List Char),
      unescaped ('\\' :: mark :: hex width c.toNat ++ rest)
        = hex width c.toNat ++ unescaped rest := by
    intro mark width rest
    rw [List.cons_append, List.cons_append, unescaped_backslash,
      unescaped_append_of_notMem (backslash_notMem_hex width c.toNat)]
  rw [numeric]
  split_ifs
  · exact ⟨2, hmark 'x' 2⟩
  · exact ⟨4, hmark 'u' 4⟩
  · exact ⟨8, hmark 'U' 8⟩

variable (printable : Char → Bool)

/-- An escape ends before what follows, and leaves no delimiter that is not escaped. -/
lemma unescaped_escape_append {quote : Char} (hquote : quote = '\'' ∨ quote = '"') (c : Char) :
    ∃ plain, quote ∉ plain
      ∧ ∀ rest, unescaped (escape printable quote c ++ rest) = plain ++ unescaped rest := by
  rw [escape]
  split_ifs with hback hnewline hreturn htab hdelim hprint
  · exact ⟨[], List.not_mem_nil, unescaped_backslash _⟩
  · exact ⟨[], List.not_mem_nil, unescaped_backslash _⟩
  · exact ⟨[], List.not_mem_nil, unescaped_backslash _⟩
  · exact ⟨[], List.not_mem_nil, unescaped_backslash _⟩
  · exact ⟨[], List.not_mem_nil, unescaped_backslash _⟩
  · exact ⟨[c], by simpa using Ne.symm hdelim, unescaped_cons hback⟩
  · obtain ⟨width, hnumeric⟩ := exists_unescaped_numeric_append c
    have hdigits : quote ∉ hex width c.toNat := fun h => by
      rcases hquote with rfl | rfl <;> exact absurd (isHexDigit_of_mem_hex h) (by decide)
    exact ⟨hex width c.toNat, hdigits, hnumeric⟩

/-- The same for an escaped text. -/
lemma unescaped_flatMap_escape_append {quote : Char} (hquote : quote = '\'' ∨ quote = '"')
    (text : List Char) :
    ∃ plain, quote ∉ plain ∧ ∀ rest,
      unescaped (text.flatMap (escape printable quote) ++ rest) = plain ++ unescaped rest := by
  induction text with
  | nil => exact ⟨[], List.not_mem_nil, fun rest => rfl⟩
  | cons c text ih =>
      obtain ⟨first, hfirst, hescape⟩ := unescaped_escape_append printable hquote c
      obtain ⟨others, hothers, htext⟩ := ih
      refine ⟨first ++ others, by simp [hfirst, hothers], fun rest => ?_⟩
      rw [List.flatMap_cons, List.append_assoc, hescape, htext, List.append_assoc]

/-! ### Printable characters -/

/-- A classification of characters agrees with that of Unicode 15.0 on ASCII. -/
def AgreesOnAscii : Prop :=
  ∀ c : Char, c.toNat < 0x80 → printable c = isPrintable .fifteen c

variable {printable}

/-- The characters of ASCII from the space to the tilde are printable. -/
lemma AgreesOnAscii.of_toNat (h : AgreesOnAscii printable) {c : Char} (hspace : 0x20 ≤ c.toNat)
    (htilde : c.toNat ≤ 0x7e) : printable c := by
  have hrange : ∀ n : Fin 0x7f, 0x20 ≤ n.val → ¬ unprintableRanges.contains n.val := by
    decide +kernel
  have hc := hrange ⟨c.toNat, by omega⟩ hspace
  rw [h c (by omega)]
  simp [isPrintable, hc]

/-- Hexadecimal digits are printable. -/
lemma AgreesOnAscii.of_mem_hex (h : AgreesOnAscii printable) {width n : ℕ} {c : Char}
    (hc : c ∈ hex width n) : printable c := by
  have hdigit := toNat_of_isHexDigit (isHexDigit_of_mem_hex hc)
  exact h.of_toNat (by omega) (by omega)

/-- A backslash, and what stands behind it in an escape, are printable. -/
lemma AgreesOnAscii.of_mem_backslash (h : AgreesOnAscii printable) {mark c : Char}
    (hmark : 0x20 ≤ mark.toNat ∧ mark.toNat ≤ 0x7e) {rest : List Char}
    (hrest : ∀ d ∈ rest, printable d) (hc : c ∈ '\\' :: mark :: rest) : printable c := by
  rcases List.mem_cons.mp hc with rfl | hc
  · exact h.of_toNat (by decide) (by decide)
  rcases List.mem_cons.mp hc with rfl | hc
  · exact h.of_toNat hmark.1 hmark.2
  · exact hrest c hc

/-- An escape holds printable characters only. -/
lemma AgreesOnAscii.of_mem_escape (h : AgreesOnAscii printable) {quote c d : Char}
    (hquote : quote = '\'' ∨ quote = '"') (hd : d ∈ escape printable quote c) : printable d := by
  have hhex : ∀ width, ∀ e ∈ hex width c.toNat, printable e := fun _ _ => h.of_mem_hex
  rw [escape] at hd
  split_ifs at hd with hback hnewline hreturn htab hdelim hprint
  · exact h.of_mem_backslash (by decide) (by simp) hd
  · exact h.of_mem_backslash (by decide) (by simp) hd
  · exact h.of_mem_backslash (by decide) (by simp) hd
  · exact h.of_mem_backslash (by decide) (by simp) hd
  · subst hdelim
    exact h.of_mem_backslash (by rcases hquote with rfl | rfl <;> decide) (by simp) hd
  · rwa [List.mem_singleton.mp hd]
  · rw [numeric] at hd
    split_ifs at hd
    · exact h.of_mem_backslash (by decide) (hhex 2) hd
    · exact h.of_mem_backslash (by decide) (hhex 4) hd
    · exact h.of_mem_backslash (by decide) (hhex 8) hd

/-- A literal holds printable characters only. -/
lemma AgreesOnAscii.of_mem_encode (h : AgreesOnAscii printable) {text : List Char} {c : Char}
    (hc : c ∈ encode printable text) : printable c := by
  have hdelimiter : printable (delimiter text) := by
    rcases delimiter_eq_or text with hquote | hquote <;>
      exact h.of_toNat (by rw [hquote]; decide) (by rw [hquote]; decide)
  rw [encode, List.mem_cons, List.mem_append, List.mem_flatMap, List.mem_singleton] at hc
  rcases hc with rfl | ⟨d, -, hd⟩ | rfl
  · exact hdelimiter
  · exact h.of_mem_escape (delimiter_eq_or text) hd
  · exact hdelimiter

/-! ### A whole literal -/

/-- The double quote delimits the texts that hold single quotes and no double ones. -/
lemma delimiter_eq_double_iff (text : List Char) :
    delimiter text = '"' ↔ '\'' ∈ text ∧ '"' ∉ text := by
  rw [delimiter]
  split_ifs with hquotes
  · exact iff_of_true rfl hquotes
  · exact iff_of_false (by decide) hquotes

/-- **A literal is a printable quotation of its text.**  Read as a literal it gives the text back,
and the reading ends with its last character.  Inside it the quote that opens it is escaped
wherever it stands, and the quote that closes it is not.  All of its characters are printable, and
it has double quotes exactly if the text holds single quotes and no double ones. -/
theorem encode_isQuotation (printable : Char → Bool) (h : AgreesOnAscii printable)
    (text : List Char) :
    ∃ quote body, encode printable text = quote :: (body ++ [quote])
      ∧ decode (encode printable text) = some (text, [])
      ∧ quote ∉ unescaped body ∧ unescaped (body ++ [quote]) = unescaped body ++ [quote]
      ∧ (∀ c ∈ encode printable text, printable c)
      ∧ (quote = '\'' ∨ quote = '"') ∧ (quote = '"' ↔ '\'' ∈ text ∧ '"' ∉ text) := by
  have hquote := delimiter_eq_or text
  have hread := decode_encode_append printable text []
  rw [List.append_nil] at hread
  obtain ⟨plain, hplain, hbody⟩ := unescaped_flatMap_escape_append printable hquote text
  have hclosed := hbody [delimiter text]
  have hopen := hbody []
  rw [List.append_nil, unescaped, List.append_nil] at hopen
  rw [← hopen] at hplain hclosed
  have hlast : unescaped [delimiter text] = [delimiter text] :=
    unescaped_cons (by rcases hquote with hq | hq <;> rw [hq] <;> decide) []
  rw [hlast] at hclosed
  exact ⟨delimiter text, _, rfl, hread, hplain, hclosed, fun c => h.of_mem_encode, hquote,
    delimiter_eq_double_iff text⟩

/-- The classification that counts no character beyond ASCII as printable. -/
def asciiOnly (c : Char) : Bool :=
  c.toNat < 0x80 && isPrintable .fifteen c

theorem encode_isQuotation_awkward :
    AgreesOnAscii (isPrintable .fifteen) ∧ AgreesOnAscii asciiOnly
      ∧ encode (isPrintable .fifteen) "it's \\n\n♩".toList = "\"it's \\\\n\\n♩\"".toList
      ∧ decode "\"it's \\\\n\\n♩\"".toList = some ("it's \\n\n♩".toList, [])
      ∧ encode asciiOnly "'\"♩".toList = "'\\'\"\\u2669'".toList
      ∧ decode "'\\'\"\\u2669'".toList = some ("'\"♩".toList, []) := by
  have fifteen : AgreesOnAscii (isPrintable .fifteen) := fun _ _ => rfl
  have ascii : AgreesOnAscii asciiOnly := fun c hc => by simp [asciiOnly, hc]
  have written : encode (isPrintable .fifteen) "it's \\n\n♩".toList
      = "\"it's \\\\n\\n♩\"".toList := by decide +kernel
  have written' : encode asciiOnly "'\"♩".toList = "'\\'\"\\u2669'".toList := by decide +kernel
  obtain ⟨_, _, -, hread, -⟩ := encode_isQuotation _ fifteen "it's \\n\n♩".toList
  obtain ⟨_, _, -, hread', -⟩ := encode_isQuotation _ ascii "'\"♩".toList
  rw [written] at hread
  rw [written'] at hread'
  exact ⟨fifteen, ascii, written, hread, written', hread'⟩

end TicksAndWidths.Text.Quoted
