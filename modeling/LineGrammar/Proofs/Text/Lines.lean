import LineGrammar.Text.Basic

/-! # The lines of a text

Cutting into lines respects the ends of lines: where a text ends with one, or is empty, its lines
are followed by those of whatever comes after it (`lines_append`).  So texts without newlines that
are written one to a line are read back as they are (`lines_flatMap`); and a newline in a line is
nowhere but at its end (`newline_last_of_mem_lines`). -/

namespace LineGrammar.Text

theorem lines_newline (t : Text) : lines ('\n' :: t) = ['\n'] :: lines t := rfl

theorem lines_ne_nil {t : Text} (h : t ≠ []) : lines t ≠ [] := by
  intro hl
  apply h
  rw [← flatten_lines t, hl, List.flatten_nil]

/-- A character other than a newline belongs to the line that follows it. -/
theorem lines_cons {c : Char} (hc : c ≠ '\n') {t l : Text} {ls : List Text}
    (h : lines t = l :: ls) : lines (c :: t) = (c :: l) :: ls := by
  rw [lines, if_neg hc, h]

theorem lines_append {a : Text} (ha : a = [] ∨ a.getLast? = some '\n') (b : Text) :
    lines (a ++ b) = lines a ++ lines b := by
  induction a with
  | nil => rfl
  | cons c t ih =>
      by_cases ht : t = []
      · obtain rfl : c = '\n' := by simpa [ht] using ha
        rw [ht]
        rfl
      · have last : t.getLast? = some '\n' := by
          rw [List.getLast?_cons_of_ne_nil ht] at ha
          simpa using ha
        have rest := ih (.inr last)
        by_cases hc : c = '\n'
        · rw [hc, List.cons_append, lines_newline, lines_newline, rest, List.cons_append]
        · obtain ⟨l, ls, hl⟩ := List.exists_cons_of_ne_nil (lines_ne_nil ht)
          rw [hl, List.cons_append] at rest
          rw [List.cons_append, lines_cons hc rest, lines_cons hc hl, List.cons_append]

/-- A line is not empty, and a newline in it is its last character. -/
theorem newline_last_of_mem_lines {t l : Text} (h : l ∈ lines t) :
    l ≠ [] ∧ '\n' ∉ l.dropLast := by
  induction t generalizing l with
  | nil => exact (nomatch h)
  | cons c t ih =>
      by_cases hc : c = '\n'
      · rw [hc, lines_newline] at h
        rcases List.mem_cons.mp h with rfl | h
        · decide
        · exact ih h
      · cases ht : lines t with
        | nil =>
            have single : l = [c] := by simpa [lines, hc, ht] using h
            simp [single]
        | cons m ms =>
            rw [lines_cons hc ht] at h
            rcases List.mem_cons.mp h with rfl | h
            · obtain ⟨some, last⟩ := ih (ht ▸ List.mem_cons_self : m ∈ lines t)
              refine ⟨List.cons_ne_nil c m, ?_⟩
              rw [List.dropLast_cons_of_ne_nil some]
              exact List.not_mem_cons_of_ne_of_not_mem (Ne.symm hc) last
            · exact ih (ht ▸ List.mem_cons_of_mem m h)

/-- All lines but the last one end in a newline. -/
theorem getLast?_of_mem_dropLast_lines {t l : Text} (h : l ∈ (lines t).dropLast) :
    l.getLast? = some '\n' := by
  induction t generalizing l with
  | nil => exact (nomatch h)
  | cons c t ih =>
      by_cases hc : c = '\n'
      · rw [hc, lines_newline] at h
        cases ht : lines t with
        | nil =>
            rw [ht] at h
            cases h
        | cons m ms =>
            rw [ht] at h
            rcases List.mem_cons.mp h with rfl | h
            · rfl
            · exact ih (ht ▸ h)
      · cases ht : lines t with
        | nil =>
            have single : lines (c :: t) = [[c]] := by simp [lines, hc, ht]
            rw [single] at h
            cases h
        | cons m ms =>
            rw [lines_cons hc ht] at h
            cases ms with
            | nil => cases h
            | cons m' ms =>
                rcases List.mem_cons.mp h with rfl | h
                · have ended : m.getLast? = some '\n' := ih (ht ▸ List.mem_cons_self)
                  rw [List.getLast?_cons, ended]
                  rfl
                · exact ih (ht ▸ List.mem_cons_of_mem m h)

/-- A line without its newline, if it has one. -/
theorem exists_of_mem_lines {t l : Text} (h : l ∈ lines t) :
    ∃ u, '\n' ∉ u ∧ (l = u ∨ l = u ++ ['\n']) := by
  obtain ⟨some, last⟩ := newline_last_of_mem_lines h
  have whole := List.dropLast_concat_getLast some
  by_cases hl : l.getLast some = '\n'
  · exact ⟨l.dropLast, last, .inr (hl ▸ whole.symm)⟩
  · refine ⟨l, fun hm => ?_, .inl rfl⟩
    rw [← whole, List.mem_append, List.mem_singleton] at hm
    exact hm.elim last fun he => hl he.symm

/-- Items that are written one to a line are the lines of what is written. -/
theorem lines_flatMap {α : Type} {line : α → Text} {as : List α} (h : ∀ a ∈ as, '\n' ∉ line a) :
    lines (as.flatMap fun a => line a ++ ['\n']) = as.map fun a => line a ++ ['\n'] := by
  have single : ∀ l : Text, '\n' ∉ l → lines (l ++ ['\n']) = [l ++ ['\n']] := by
    intro l hl
    induction l with
    | nil => rfl
    | cons c l ih =>
        have hc : c ≠ '\n' := fun hc => hl (hc ▸ List.mem_cons_self)
        rw [List.cons_append, lines_cons hc (ih (List.not_mem_of_not_mem_cons hl))]
  induction as with
  | nil => rfl
  | cons a as ih =>
      obtain ⟨first, rest⟩ := List.forall_mem_cons.mp h
      rw [List.flatMap_cons, lines_append (.inr (by simp)), single (line a) first, ih rest]
      rfl

end LineGrammar.Text
