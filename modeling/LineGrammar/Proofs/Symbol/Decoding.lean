import LineGrammar.Symbol

/-! # Reading rendered symbols back

A rendered string says which symbol it came from: what starts with an angle bracket is the
nonterminal in the brackets, what is put in single quotes is the terminal in the quotes, and
anything else is a terminal as it stands (`decode`).

The strings that are the rendered form of some symbol are those of `IsRendered`.  `decode` undoes
`render` on every symbol, and `render` undoes `decode` on exactly these strings
(`render_unambiguous`). -/

namespace LineGrammar.Symbol

/-- The symbol that a rendered string stands for. -/
def decode (r : Text) : Symbol :=
  if r.head? = some '<' then nonterminal r.tail.dropLast
  else if isEnclosed r then terminal r.tail.dropLast
  else terminal r

/-- The strings that stand for a symbol. -/
inductive IsRendered : Text → Prop
  | bracketed (name : Text) : IsRendered (bracketed name)
  /-- A text that looks like neither a nonterminal nor a terminal in single quotes. -/
  | bare {t : Text} : t.head? ≠ some '<' → (∀ u, t ≠ enclosed u) → IsRendered t
  /-- A text in single quotes that would look like one of them without the quotes. -/
  | quoted {t : Text} : (t.head? = some '<' ∨ ∃ u, t = enclosed u) → IsRendered (enclosed t)

/-! ### Brackets and quotes -/

theorem bracketed_injective {m n : Text} (h : bracketed m = bracketed n) : m = n := by
  simpa [bracketed] using h

theorem head?_bracketed (name : Text) : (bracketed name).head? = some '<' := rfl

theorem head?_enclosed (t : Text) : (enclosed t).head? ≠ some '<' := by simp [enclosed]

theorem tail_dropLast_bracketed (name : Text) : (bracketed name).tail.dropLast = name := by
  simp [bracketed]

theorem tail_dropLast_enclosed (t : Text) : (enclosed t).tail.dropLast = t := by simp [enclosed]

theorem isEnclosed_iff (t : Text) : isEnclosed t = true ↔ ∃ u, t = enclosed u := by
  constructor
  · intro h
    unfold isEnclosed at h
    split at h
    · rename_i t
      simp only [beq_iff_eq, List.getLast?_eq_some_iff] at h
      obtain ⟨u, rfl⟩ := h
      exact ⟨u, rfl⟩
    · cases h
  · rintro ⟨u, rfl⟩
    simp [isEnclosed, enclosed]

theorem needsQuotes_iff (t : Text) :
    needsQuotes t = true ↔ t.head? = some '<' ∨ ∃ u, t = enclosed u := by
  unfold needsQuotes
  rw [Bool.or_eq_true, beq_iff_eq, isEnclosed_iff]

theorem decode_bracketed (name : Text) : decode (bracketed name) = nonterminal name := by
  unfold decode
  rw [if_pos (head?_bracketed name), tail_dropLast_bracketed]

theorem decode_enclosed (t : Text) : decode (enclosed t) = terminal t := by
  unfold decode
  rw [if_neg (head?_enclosed t), if_pos ((isEnclosed_iff _).mpr ⟨t, rfl⟩), tail_dropLast_enclosed]

theorem decode_bare {t : Text} (hb : t.head? ≠ some '<') (hq : ∀ u, t ≠ enclosed u) :
    decode t = terminal t := by
  have he : ¬ isEnclosed t = true := fun h => by
    obtain ⟨u, hu⟩ := (isEnclosed_iff t).mp h
    exact hq u hu
  unfold decode
  rw [if_neg hb, if_neg he]

/-! ### Rendering and decoding -/

theorem render_terminal_quoted {t : Text} (h : t.head? = some '<' ∨ ∃ u, t = enclosed u) :
    (terminal t).render = enclosed t := by
  simp only [render]
  rw [if_pos ((needsQuotes_iff t).mpr h)]

theorem render_terminal_bare {t : Text} (hb : t.head? ≠ some '<') (hq : ∀ u, t ≠ enclosed u) :
    (terminal t).render = t := by
  have hn : ¬ needsQuotes t = true := fun h => by
    rcases (needsQuotes_iff t).mp h with h | ⟨u, hu⟩
    · exact hb h
    · exact hq u hu
  simp only [render]
  rw [if_neg hn]

theorem isRendered_render (s : Symbol) : IsRendered s.render := by
  cases s with
  | nonterminal name => exact .bracketed name
  | terminal t =>
      by_cases h : t.head? = some '<' ∨ ∃ u, t = enclosed u
      · rw [render_terminal_quoted h]
        exact .quoted h
      · simp only [not_or, not_exists] at h
        rw [render_terminal_bare h.1 h.2]
        exact .bare h.1 h.2

theorem decode_render (s : Symbol) : decode s.render = s := by
  cases s with
  | nonterminal name => exact decode_bracketed name
  | terminal t =>
      by_cases h : t.head? = some '<' ∨ ∃ u, t = enclosed u
      · rw [render_terminal_quoted h, decode_enclosed]
      · simp only [not_or, not_exists] at h
        rw [render_terminal_bare h.1 h.2, decode_bare h.1 h.2]

theorem render_injective {s t : Symbol} (h : s.render = t.render) : s = t := by
  rw [← decode_render s, h, decode_render]

theorem render_decode_of_isRendered {r : Text} (h : IsRendered r) : (decode r).render = r := by
  cases h with
  | bracketed name => rw [decode_bracketed, render]
  | bare hb hq => rw [decode_bare hb hq, render_terminal_bare hb hq]
  | quoted h => rw [decode_enclosed, render_terminal_quoted h]

theorem render_decode_iff (r : Text) : (decode r).render = r ↔ IsRendered r := by
  constructor
  · intro h
    rw [← h]
    exact isRendered_render _
  · exact render_decode_of_isRendered

theorem isRendered_iff (r : Text) : IsRendered r ↔ ∃ s : Symbol, s.render = r := by
  constructor
  · intro h
    exact ⟨decode r, render_decode_of_isRendered h⟩
  · rintro ⟨s, rfl⟩
    exact isRendered_render s

/-- **The rendered form is unambiguous**: no two symbols share one, terminals and nonterminals are
told apart by their first character, and one decoder reads every symbol back.  A string that is
decoded and rendered again comes back exactly if it is the rendered form of some symbol. -/
theorem render_unambiguous :
    (∀ s t : Symbol, s.render = t.render → s = t) ∧
      (∀ content : Text, (terminal content).render.head? ≠ some '<') ∧
      (∀ name : Text, (nonterminal name).render.head? = some '<') ∧
      (∀ name : Text, decode (bracketed name) = nonterminal name) ∧
      (∀ content : Text, decode (enclosed content) = terminal content) ∧
      (∀ r : Text, r.head? ≠ some '<' → (∀ t, r ≠ enclosed t) → decode r = terminal r) ∧
      (∀ s : Symbol, decode s.render = s) ∧
      ∀ r : Text, ((decode r).render = r ↔ IsRendered r) ∧
        (IsRendered r ↔ ∃ s : Symbol, s.render = r) :=
  ⟨fun _ _ => render_injective, head?_render_terminal, fun _ => rfl, decode_bracketed,
    decode_enclosed, fun _ => decode_bare, decode_render,
    fun r => ⟨render_decode_iff r, isRendered_iff r⟩⟩

/-- A lone quote is no quoted text, and a text that is quoted without need is the rendered form of
no symbol. -/
theorem render_unambiguous_quotes :
    (terminal ['\'']).render ≠ (terminal ['\'', '\'']).render ∧
      decode ['\''] = terminal ['\''] ∧ ¬ IsRendered (enclosed ['a']) := by
  obtain ⟨injective, -, -, -, -, bare, -, image⟩ := render_unambiguous
  refine ⟨fun h => ?_, bare _ (by decide) (fun t h => ?_), fun h => ?_⟩
  · exact absurd (injective _ _ h) (by decide)
  · simp [enclosed] at h
  · exact absurd ((image _).1.mpr h) (by decide)

end LineGrammar.Symbol
