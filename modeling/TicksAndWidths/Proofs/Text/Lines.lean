import Mathlib.Tactic

/-!
Texts as lines.

* `endedLines`: a text of lines, each of them ended by a newline.
* `count_newline_endedLines`: it has as many newlines as lines.
* `splitOn_endedLines_append`: **ended lines are given back by splitting**, with whatever stands
  behind the last newline.
* `exists_endedLines`: every text is made in this way, so no line of a text holds a newline
  (`newline_notMem_of_mem_splitOn`).
-/

namespace TicksAndWidths.Text

/-- A text of lines, each of them ended. -/
def endedLines (ls : List (List Char)) : List Char :=
  ls.flatMap (· ++ ['\n'])

lemma endedLines_cons_append (line : List Char) (ls : List (List Char)) (last : List Char) :
    endedLines (line :: ls) ++ last = line ++ '\n' :: (endedLines ls ++ last) := by
  simp [endedLines]

/-- Lines that hold no newline are ended by one each. -/
lemma count_newline_endedLines {ls : List (List Char)} (h : ∀ line ∈ ls, '\n' ∉ line) :
    (endedLines ls).count '\n' = ls.length := by
  induction ls with
  | nil => rfl
  | cons line ls ih =>
      have hline := List.count_eq_zero_of_not_mem (h line List.mem_cons_self)
      have hrest := ih fun l hl => h l (List.mem_cons_of_mem line hl)
      have hcons := endedLines_cons_append line ls []
      rw [List.append_nil, List.append_nil] at hcons
      rw [hcons, List.count_append, List.count_cons_self, hline, hrest, List.length_cons,
        Nat.zero_add]

/-- **Ended lines are given back by splitting**, with whatever stands behind the last newline. -/
theorem splitOn_endedLines_append {ls : List (List Char)} {last : List Char}
    (h : ∀ line ∈ ls, '\n' ∉ line) (hlast : '\n' ∉ last) :
    (endedLines ls ++ last).splitOn '\n' = ls ++ [last] := by
  induction ls with
  | nil => exact List.splitOn_eq_singleton hlast
  | cons line ls ih =>
      have hline := h line List.mem_cons_self
      have hrest := ih fun l hl => h l (List.mem_cons_of_mem line hl)
      rw [endedLines_cons_append, List.splitOn_append_cons_self_of_not_mem hline, hrest,
        List.cons_append]

/-- Every text is a text of ended lines, with something behind the last newline. -/
lemma exists_endedLines (text : List Char) :
    ∃ ls last, (∀ line ∈ ls, '\n' ∉ line) ∧ '\n' ∉ last ∧ endedLines ls ++ last = text := by
  induction text with
  | nil => exact ⟨[], [], by simp, by simp, rfl⟩
  | cons c text ih =>
      obtain ⟨ls, last, hls, hlast, rfl⟩ := ih
      by_cases hc : c = '\n'
      · subst hc
        exact ⟨[] :: ls, last, by simpa using hls, hlast, endedLines_cons_append [] ls last⟩
      · have hnot : ∀ {line}, '\n' ∉ line → '\n' ∉ c :: line := by
          intro line hline hmem
          rcases List.mem_cons.mp hmem with heq | hmem
          · exact hc heq.symm
          · exact hline hmem
        -- the character joins the line before which it stands
        cases ls with
        | nil => exact ⟨[], c :: last, by simp, hnot hlast, rfl⟩
        | cons line ls =>
            obtain ⟨hline, hls⟩ := List.forall_mem_cons.mp hls
            refine ⟨(c :: line) :: ls, last, List.forall_mem_cons.mpr ⟨hnot hline, hls⟩, hlast, ?_⟩
            rw [endedLines_cons_append, endedLines_cons_append, List.cons_append]

/-- No line of a text holds a newline. -/
lemma newline_notMem_of_mem_splitOn {text line : List Char} (h : line ∈ text.splitOn '\n') :
    '\n' ∉ line := by
  obtain ⟨ls, last, hls, hlast, rfl⟩ := exists_endedLines text
  rw [splitOn_endedLines_append hls hlast, List.mem_append, List.mem_singleton] at h
  rcases h with hmem | rfl
  · exact hls line hmem
  · exact hlast

end TicksAndWidths.Text
