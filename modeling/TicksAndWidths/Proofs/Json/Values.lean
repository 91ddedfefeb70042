import Mathlib.Data.List.TakeWhile
import Mathlib.Tactic
import TicksAndWidths.Proofs.Json.Numbers
import TicksAndWidths.Proofs.Json.Strings

/-!
Reading printed values back.

* `Value.ind`: a property holds of every value once it is inherited from the items of an array and
  from the members of an object.
* `Value.IsRead`: a printed value is read back wherever no digit follows it, in as many steps as its
  text has characters.
* `readItems_print` and `readMembers_print`: the items of an array and the members of an object are
  read up to the bracket behind them, if each of them is.
* `isRead_number`, `isRead_text`, `isRead_array` and `isRead_object`: a value is read back if those
  in it are.  `Value.isRead`: **so every value is read back.**
* `Value.read_print_append`: a text is read as the value that is printed in it, with nothing but
  blanks behind it.
-/

namespace TicksAndWidths.Json

open Text

/-! ### Induction on values -/

/-- The induction principle of values: a property holds of every value once it is inherited from the
items of an array and from the members of an object. -/
@[elab_as_elim]
theorem Value.ind {P : Value → Prop} (number : ∀ n, P (.number n)) (text : ∀ s, P (.text s))
    (array : ∀ items : List Value, (∀ v ∈ items, P v) → P (.array items))
    (object : ∀ members : List (String × Value), (∀ m ∈ members, P m.2) → P (.object members))
    (v : Value) : P v :=
  Value.rec (motive_1 := P) (motive_2 := fun items => ∀ v ∈ items, P v)
    (motive_3 := fun members => ∀ m ∈ members, P m.2) (motive_4 := fun m => P m.2)
    number text (fun items ih => array items ih) (fun members ih => object members ih)
    (fun _ h => absurd h (by simp))
    (fun _ _ hfirst hrest => List.forall_mem_cons.mpr ⟨hfirst, hrest⟩)
    (fun _ h => absurd h (by simp))
    (fun _ _ hfirst hrest => List.forall_mem_cons.mpr ⟨hfirst, hrest⟩)
    (fun _ _ h => h) v

/-! ### Tokens -/

/-- The indentation of a line is skipped. -/
lemma skipBlanks_newline_append (depth : ℕ) (text : List Char) :
    skipBlanks (newline depth ++ text) = skipBlanks text := by
  have hblank : ∀ c ∈ newline depth, isBlank c := by
    simp [newline, isBlank]
  rw [skipBlanks, List.dropWhile_append_of_pos hblank, skipBlanks]

lemma readValue_newline_append (steps depth : ℕ) (text : List Char) :
    readValue steps (newline depth ++ text) = readValue steps text := by
  cases steps with
  | zero => rw [readValue, readValue]
  | succ steps => rw [readValue, readValue, skipBlanks_newline_append]

lemma readItems_newline_append (steps depth : ℕ) (text : List Char) :
    readItems steps (newline depth ++ text) = readItems steps text := by
  cases steps with
  | zero => rw [readItems, readItems]
  | succ steps => rw [readItems, readItems, readValue_newline_append]

lemma readMembers_newline_append (steps depth : ℕ) (text : List Char) :
    readMembers steps (newline depth ++ text) = readMembers steps text := by
  cases steps with
  | zero => rw [readMembers, readMembers]
  | succ steps => rw [readMembers, readMembers, readKey, readKey, skipBlanks_newline_append]

lemma quote_append (s : String) (rest : List Char) :
    quote s ++ rest = '"' :: (s.toList.flatMap escape ++ '"' :: rest) := by
  rw [quote, List.cons_append, List.append_assoc, List.singleton_append]

lemma skipBlanks_quote_append (s : String) (rest : List Char) :
    skipBlanks (quote s ++ rest) = '"' :: (s.toList.flatMap escape ++ '"' :: rest) := by
  rw [quote_append, skipBlanks_cons_of_not_blank (by decide)]

/-- A string is read back, whatever follows it. -/
lemma readValue_quote_append (s : String) (steps : ℕ) (rest : List Char) :
    readValue (steps + 1) (quote s ++ rest) = some (.text s, rest) := by
  rw [readValue, skipBlanks_quote_append]
  simp [readBody_flatMap_escape]

/-- A name is read back with the colon behind it. -/
lemma readKey_quote_append (key : String) (rest : List Char) :
    readKey (quote key ++ ':' :: rest) = some (key, rest) := by
  have hcolon : skipBlanks (':' :: rest) = ':' :: rest :=
    skipBlanks_cons_of_not_blank (by decide) rest
  rw [readKey, skipBlanks_quote_append]
  simp [readBody_flatMap_escape, hcolon]

/-- An object that is not closed at once is read member by member. -/
lemma readValue_brace {body : List Char} (h : ∀ rest, skipBlanks body ≠ '\x7d' :: rest)
    (steps : ℕ) :
    readValue (steps + 1) ('\x7b' :: body)
      = (readMembers steps body).map fun read => (.object read.1, read.2) := by
  have hblank : ¬ isBlank '\x7b' := by decide
  rw [readValue, skipBlanks_cons_of_not_blank hblank]
  simp only
  cases readMembers steps body <;> rfl

/-- No value begins with a blank or with a closing bracket. -/
lemma exists_print_eq_cons (v : Value) (depth : ℕ) :
    ∃ c text, v.print depth = c :: text ∧ ¬ isBlank c ∧ c ≠ ']' := by
  match v with
  | .number n =>
      obtain ⟨c, digits, hdecimal, hc⟩ := exists_decimal_eq_cons n
      refine ⟨c, digits, by rw [Value.print, hdecimal], not_isBlank_of_isDigit hc, ?_⟩
      rintro rfl
      exact absurd hc (by decide)
  | .text s => exact ⟨'"', _, by rw [Value.print, quote], by decide, by decide⟩
  | .array [] => exact ⟨'[', _, by rw [Value.print], by decide, by decide⟩
  | .array (_ :: _) => exact ⟨'[', _, by rw [Value.print], by decide, by decide⟩
  | .object [] => exact ⟨'\x7b', _, by rw [Value.print], by decide, by decide⟩
  | .object ((_, _) :: _) => exact ⟨'\x7b', _, by rw [Value.print], by decide, by decide⟩

/-! ### Items and members -/

/-- The bracket behind an item ends the array. -/
lemma readItems_of_bracket {steps : ℕ} {text after rest : List Char} {v : Value}
    (hv : readValue steps text = some (v, after)) (hafter : skipBlanks after = ']' :: rest) :
    readItems (steps + 1) text = some ([v], rest) := by
  rw [readItems, hv]
  simp [hafter]

/-- The comma behind an item leads to the others. -/
lemma readItems_of_comma {steps : ℕ} {text more : List Char} {v : Value}
    (hv : readValue steps text = some (v, ',' :: more)) :
    readItems (steps + 1) text
      = (readItems steps more).map fun read => (v :: read.1, read.2) := by
  have hcomma : skipBlanks (',' :: more) = ',' :: more :=
    skipBlanks_cons_of_not_blank (by decide) more
  rw [readItems, hv]
  simp [hcomma, Option.map_eq_bind]

/-- The brace behind a member ends the object. -/
lemma readMembers_of_brace {steps : ℕ} {key : String} {text after rest : List Char} {v : Value}
    (hv : readValue steps text = some (v, after)) (hafter : skipBlanks after = '\x7d' :: rest) :
    readMembers (steps + 1) (quote key ++ ':' :: text) = some ([(key, v)], rest) := by
  rw [readMembers, readKey_quote_append]
  simp [hv, hafter]

/-- The comma behind a member leads to the others. -/
lemma readMembers_of_comma {steps : ℕ} {key : String} {text more : List Char} {v : Value}
    (hv : readValue steps text = some (v, ',' :: more)) :
    readMembers (steps + 1) (quote key ++ ':' :: text)
      = (readMembers steps more).map fun read => ((key, v) :: read.1, read.2) := by
  have hcomma : skipBlanks (',' :: more) = ',' :: more :=
    skipBlanks_cons_of_not_blank (by decide) more
  rw [readMembers, readKey_quote_append]
  simp [hv, hcomma, Option.map_eq_bind]

/-- A printed value is read back wherever no digit follows it, in as many steps as its text has
characters. -/
def Value.IsRead (v : Value) : Prop :=
  ∀ (depth steps : ℕ) (rest : List Char), (∀ c ∈ rest.head?, ¬ c.isDigit) →
    (v.print depth).length ≤ steps → readValue steps (v.print depth ++ rest) = some (v, rest)

/-- A value that is read back is read behind a space as well. -/
lemma Value.IsRead.readValue_space {v : Value} (h : v.IsRead) {depth steps : ℕ} {rest : List Char}
    (hrest : ∀ c ∈ rest.head?, ¬ c.isDigit) (hsteps : (v.print depth).length ≤ steps) :
    readValue steps (' ' :: (v.print depth ++ rest)) = some (v, rest) :=
  (readValue_cons_of_blank rfl steps _).trans (h depth steps rest hrest hsteps)

/-- The items of an array are read up to its closing bracket, if each of them is read. -/
lemma readItems_print {v : Value} {vs : List Value} (h : ∀ w ∈ v :: vs, w.IsRead)
    {depth steps : ℕ} (hsteps : (v.print depth).length + (printItems depth vs).length < steps)
    (outer : ℕ) (rest : List Char) :
    readItems steps (v.print depth ++ (printItems depth vs ++ (newline outer ++ ']' :: rest)))
      = some (v :: vs, rest) := by
  induction vs generalizing v steps with
  | nil =>
      obtain ⟨k, rfl⟩ := Nat.exists_eq_add_one.mpr (Nat.zero_lt_of_lt hsteps)
      have hv : v.IsRead := h v List.mem_cons_self
      refine readItems_of_bracket (hv depth k _ (by simp [printItems, newline]) (by omega)) ?_
      rw [printItems, List.nil_append, skipBlanks_newline_append,
        skipBlanks_cons_of_not_blank (by decide)]
  | cons w ws ih =>
      obtain ⟨k, rfl⟩ := Nat.exists_eq_add_one.mpr (Nat.zero_lt_of_lt hsteps)
      have hv : v.IsRead := h v List.mem_cons_self
      simp only [printItems, List.length_cons, List.length_append] at hsteps
      have hsize : (w.print depth).length + (printItems depth ws).length < k := by omega
      have hothers := ih (fun u hu => h u (List.mem_cons_of_mem v hu)) hsize
      rw [printItems, List.cons_append, List.append_assoc, List.append_assoc,
        readItems_of_comma (hv depth k _ (by simp) (by omega)), readItems_newline_append, hothers]
      rfl

/-- The members of an object are read up to its closing brace, if the value of each is read. -/
lemma readMembers_print {key : String} {v : Value} {members : List (String × Value)}
    (h : ∀ m ∈ (key, v) :: members, m.2.IsRead) {depth steps : ℕ}
    (hsteps : (v.print depth).length + (printMembers depth members).length < steps)
    (outer : ℕ) (rest : List Char) :
    readMembers steps (quote key ++ ':' :: ' ' :: (v.print depth
        ++ (printMembers depth members ++ (newline outer ++ '\x7d' :: rest))))
      = some ((key, v) :: members, rest) := by
  induction members generalizing key v steps with
  | nil =>
      obtain ⟨k, rfl⟩ := Nat.exists_eq_add_one.mpr (Nat.zero_lt_of_lt hsteps)
      have hv : v.IsRead := h (key, v) List.mem_cons_self
      refine readMembers_of_brace
        (hv.readValue_space (by simp [printMembers, newline]) (by omega)) ?_
      rw [printMembers, List.nil_append, skipBlanks_newline_append,
        skipBlanks_cons_of_not_blank (by decide)]
  | cons m ms ih =>
      obtain ⟨key', w⟩ := m
      obtain ⟨k, rfl⟩ := Nat.exists_eq_add_one.mpr (Nat.zero_lt_of_lt hsteps)
      have hv : v.IsRead := h (key, v) List.mem_cons_self
      simp only [printMembers, List.length_cons, List.length_append] at hsteps
      have hsize : (w.print depth).length + (printMembers depth ms).length < k := by omega
      have hothers := ih (fun u hu => h u (List.mem_cons_of_mem (key, v) hu)) hsize
      simp only [printMembers, List.cons_append, List.append_assoc, List.nil_append]
      rw [readMembers_of_comma (hv.readValue_space (by simp) (by omega)),
        readMembers_newline_append, hothers]
      rfl

/-! ### Values -/

lemma isRead_number (n : ℕ) : (Value.number n).IsRead := by
  intro depth steps rest hrest hsteps
  rw [Value.print] at hsteps ⊢
  have hpos := (List.length_pos_iff.mpr (decimal_ne_nil n)).trans_le hsteps
  obtain ⟨k, rfl⟩ := Nat.exists_eq_add_one.mpr hpos
  exact readValue_decimal_append n k hrest

lemma isRead_text (s : String) : (Value.text s).IsRead := by
  intro depth steps rest _ hsteps
  rw [Value.print, quote, List.length_cons] at hsteps
  obtain ⟨k, rfl⟩ := Nat.exists_eq_add_one.mpr (Nat.zero_lt_of_lt hsteps)
  rw [Value.print]
  exact readValue_quote_append s k rest

/-- An array is read back if its items are. -/
lemma isRead_array {items : List Value} (h : ∀ v ∈ items, v.IsRead) :
    (Value.array items).IsRead := by
  intro depth steps rest _ hsteps
  cases items with
  | nil =>
      rw [Value.print, List.length_cons] at hsteps
      obtain ⟨k, rfl⟩ := Nat.exists_eq_add_one.mpr (Nat.zero_lt_of_lt hsteps)
      rw [Value.print]
      rfl
  | cons v vs =>
      simp only [Value.print, List.length_cons, List.length_append] at hsteps
      obtain ⟨k, rfl⟩ := Nat.exists_eq_add_one.mpr (Nat.zero_lt_of_lt hsteps)
      have hsize : (v.print (depth + 1)).length + (printItems (depth + 1) vs).length < k := by
        omega
      have hitems := readItems_print h hsize depth rest
      have hopen : ∀ after, skipBlanks (newline (depth + 1) ++ (v.print (depth + 1)
          ++ (printItems (depth + 1) vs ++ (newline depth ++ ']' :: rest)))) ≠ ']' :: after := by
        intro after
        obtain ⟨c, text, htext, hblank, hc⟩ := exists_print_eq_cons v (depth + 1)
        rw [skipBlanks_newline_append, htext, List.cons_append,
          skipBlanks_cons_of_not_blank hblank]
        exact fun heq => hc (List.cons.inj heq).1
      simp only [Value.print, List.cons_append, List.append_assoc, List.nil_append]
      rw [readValue_bracket hopen, readItems_newline_append, hitems]
      rfl

/-- An object is read back if the values of its members are. -/
lemma isRead_object {members : List (String × Value)} (h : ∀ m ∈ members, m.2.IsRead) :
    (Value.object members).IsRead := by
  intro depth steps rest _ hsteps
  cases members with
  | nil =>
      rw [Value.print, List.length_cons] at hsteps
      obtain ⟨k, rfl⟩ := Nat.exists_eq_add_one.mpr (Nat.zero_lt_of_lt hsteps)
      rw [Value.print]
      rfl
  | cons m ms =>
      obtain ⟨key, v⟩ := m
      simp only [Value.print, List.length_cons, List.length_append] at hsteps
      obtain ⟨k, rfl⟩ := Nat.exists_eq_add_one.mpr (Nat.zero_lt_of_lt hsteps)
      have hsize : (v.print (depth + 1)).length + (printMembers (depth + 1) ms).length < k := by
        omega
      have hmembers := readMembers_print h hsize depth rest
      have hopen : ∀ text after,
          skipBlanks (newline (depth + 1) ++ (quote key ++ text)) ≠ '\x7d' :: after := by
        intro text after
        rw [skipBlanks_newline_append, skipBlanks_quote_append]
        exact fun heq => absurd (List.cons.inj heq).1 (by decide)
      simp only [Value.print, List.cons_append, List.append_assoc, List.nil_append]
      rw [readValue_brace (hopen _), readMembers_newline_append, hmembers]
      rfl

/-- **Every value is read back.** -/
theorem Value.isRead (v : Value) : v.IsRead := by
  induction v using Value.ind with
  | number n => exact isRead_number n
  | text s => exact isRead_text s
  | array items ih => exact isRead_array ih
  | object members ih => exact isRead_object ih

/-- A printed value is read as that value, with nothing but blanks behind it. -/
theorem Value.read_print_append (v : Value) {after : List Char} (h : ∀ c ∈ after, isBlank c) :
    Value.read (v.print 0 ++ after) = some v := by
  have hdigit : ∀ c ∈ after.head?, ¬ c.isDigit := fun c hc hdigit =>
    not_isBlank_of_isDigit hdigit (h c (List.mem_of_mem_head? hc))
  have hread := v.isRead 0 ((v.print 0 ++ after).length + 1) after hdigit (by simp; omega)
  have hskip : skipBlanks after = [] := by
    rw [skipBlanks, List.dropWhile_eq_nil_iff]
    exact h
  rw [read, hread]
  simp [hskip]

end TicksAndWidths.Json
