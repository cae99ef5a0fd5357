import LineGrammar.Proofs.History
import LineGrammar.Proofs.Modes
import LineGrammar.Proofs.RuleLine

/-! # What a compiled grammar is made of

Whatever text is compiled, labels are labels, no alternative is empty, and every symbol is one that
was admitted when it was added (`performAll_wellFormed`).  A line settles this by itself: its label
and its tokens are cut from it, and what may become of them in a mode, with or without spacing, is
told by `Symbol.Admitted`.  A run of actions only puts lines together. -/

namespace LineGrammar

variable {σ : Type} [Sampler σ]

/-- The symbols that can be added in a mode, with or without spacing.  Where the sampler is asked,
no name starts with `r`, and nothing is known about the strings that the sampler answers with. -/
def Symbol.Admitted (mode : Mode) (spacing : Bool) : Symbol → Prop
  | terminal content =>
    mode = .plain →
      if spacing then content = [' '] ∨ ' ' ∉ content else ' ' ∉ content ∧ '\n' ∉ content
  | nonterminal name => IsReference name ∧ (mode ≠ .plain → name.head? ≠ some 'r')

theorem mem_unescapeNewlines {t : Text} {c : Char} (h : c ∈ unescapeNewlines t) :
    c ∈ t ∨ c = '\n' := by
  fun_induction unescapeNewlines t with
  | case1 => exact .inl h
  | case2 d => exact .inl h
  | case3 d e t hd ih =>
      rcases List.mem_cons.mp h with rfl | h
      · exact .inr rfl
      · exact (ih h).imp_left fun hc => List.mem_cons_of_mem d (List.mem_cons_of_mem e hc)
  | case4 d e t hd ih =>
      rcases List.mem_cons.mp h with rfl | h
      · exact .inl List.mem_cons_self
      · exact (ih h).imp_left (List.mem_cons_of_mem d)

namespace Symbol

variable {mode : Mode} {s : Symbol}

theorem admitted_true (h : s.Admitted mode false) : s.Admitted mode true := by
  cases s with
  | nonterminal name => exact h
  | terminal content => exact fun plain => .inr (h plain).1

theorem admitted_unescaped (h : s.Admitted mode false) : s.unescaped.Admitted mode true := by
  cases s with
  | nonterminal name => exact h
  | terminal content =>
      refine fun plain => .inr fun space => ?_
      rcases mem_unescapeNewlines space with hc | hc
      · exact (h plain).1 hc
      · exact absurd hc (by decide)

theorem admitted_of_mem_spaced {a : Alternative} (h : ∀ s ∈ a, s.Admitted mode false)
    (hs : s ∈ Alternative.spaced a) : s.Admitted mode true := by
  unfold Alternative.spaced at hs
  split at hs
  · exact admitted_true (h s hs)
  · rcases mem_intersperse hs with rfl | hs
    · exact fun _ => .inl rfl
    · obtain ⟨b, hb, rfl⟩ := List.mem_map.mp hs
      exact admitted_unescaped (h b hb)

end Symbol

theorem Alternative.spaced_ne_nil {a : Alternative} (h : a ≠ []) : spaced a ≠ [] := by
  unfold spaced
  split
  · exact h
  · rw [← List.length_pos_iff, List.length_intersperse, List.length_map]
    have := List.length_pos_iff.mpr h
    omega

/-! ### Lines -/

omit [Sampler σ] in
theorem thread_ne_nil {α β : Type} (f : σ → α → β × σ) (s : σ) {as : List α} (h : as ≠ []) :
    (thread f s as).1 ≠ [] := by
  cases as with
  | nil => exact absurd rfl h
  | cons a as => exact List.cons_ne_nil _ _

omit [Sampler σ] in
theorem token_readToken [Sampler σ] (settings : Settings) (s : σ) (token : Text) :
    (readToken settings s token).1.token = token := by
  unfold readToken
  cases request? settings.mode settings.samples token <;> rfl

variable {settings : Settings}

/-- What takes the place of a token is admitted, whatever the sampler answers. -/
theorem admitted_symbol {s : σ} {token : Text} (space : ' ' ∉ Text.chomp token)
    (newline : '\n' ∉ Text.chomp token) :
    (readToken settings s token).1.symbol.Admitted settings.mode false := by
  have asked := answer?_readToken settings s token
  rw [request?_eq_none_iff, token_readToken] at asked
  cases ha : (readToken settings s token).1.answer? with
  | some answer =>
      have marked : settings.mode ≠ .plain := fun plain => by
        rw [asked.mpr (.inl plain)] at ha
        cases ha
      unfold Reading.symbol
      rw [ha]
      exact fun plain => absurd plain marked
  | none =>
      have writable := RuleLine.isWritable_ofToken space newline
      have bare : (readToken settings s token).1.bare = .ofToken (Text.chomp token) := by
        unfold Reading.bare
        rw [token_readToken]
      rw [Reading.symbol_of_none ha, bare]
      cases ht : Symbol.ofToken (Text.chomp token) with
      | terminal content =>
          rw [ht] at writable
          exact fun _ => writable
      | nonterminal name =>
          rw [ht] at writable
          refine ⟨writable, fun marked first => ?_⟩
          obtain ⟨t, rfl⟩ := List.head?_eq_some_iff.mp first
          have head := (exists_ofToken_eq_iff token).mp ⟨t, ht⟩
          exact (asked.mp ha).elim marked fun unmarked => unmarked head

/-- The alternatives that a line adds are not empty, and their symbols are admitted. -/
theorem alternatives_of_stated {e : Addition} (h : e.Stated σ) {a : Alternative}
    (ha : a ∈ e.alternatives) :
    a ≠ [] ∧ ∀ s ∈ a, s.Admitted e.settings.mode e.settings.spacing := by
  obtain ⟨source, line, rule, s, hl, hr, read, -⟩ := h
  have symbols : ∀ b ∈ e.line.readings.map Reading.symbol, b.Admitted e.settings.mode false := by
    intro b hb
    obtain ⟨r, hread, rfl⟩ := List.mem_map.mp hb
    rw [read] at hread
    obtain ⟨s', token, ht, rfl⟩ := mem_thread hread
    obtain ⟨space, newline⟩ := RuleLine.not_mem_chomp hl hr ht
    exact admitted_symbol space newline
  have some : e.line.readings.map Reading.symbol ≠ [] := by
    rw [read]
    exact mt List.map_eq_nil_iff.mp (thread_ne_nil _ s (RuleLine.tokens_ne_nil hr))
  unfold Addition.alternatives alternativesOf at ha
  dsimp only at ha
  split at ha
  · rw [List.mem_singleton] at ha
    subst ha
    cases e.settings.spacing with
    | true => exact ⟨Alternative.spaced_ne_nil some, fun _ => Symbol.admitted_of_mem_spaced symbols⟩
    | false => exact ⟨some, symbols⟩
  · rename_i fans
    -- A string of an answer is an alternative of its own, and the mode is not the plain one.
    obtain ⟨r, hr⟩ := List.exists_mem_of_ne_nil _ fans
    have marked : e.settings.mode ≠ .plain := fun plain => by
      have fan := (List.mem_filter.mp hr).2
      simp [Reading.fansOut, plain] at fan
    obtain ⟨string, -, rfl⟩ := List.mem_map.mp ha
    refine ⟨List.cons_ne_nil _ _, fun b hb => ?_⟩
    rw [List.mem_singleton] at hb
    rw [hb]
    exact fun plain => absurd plain marked

theorem isLabel_of_stated {e : Addition} (h : e.Stated σ) : IsLabel e.line.label := by
  obtain ⟨source, line, rule, s, hl, hr, read, -⟩ := h
  rw [read]
  exact RuleLine.isLabel hl hr

/-! ### Runs -/

namespace Workbench

variable {sampler : σ} {actions : List (Action σ)}

theorem isLabel_of_mem_rules (h : (performAll actions (fresh sampler)).1 = .ok ()) {r : Rule}
    (hr : r ∈ (performAll actions (fresh sampler)).2.grammar.rules.toList) : IsLabel r.name := by
  obtain ⟨⟨e, he, label⟩, -⟩ := of_mem_rules_performAll h hr
  rw [← label]
  exact isLabel_of_stated (stated_of_mem_history _ h he)

/-- **Compiled grammars are well formed.**  After any run of actions that succeeds, from nothing on:

There is a rule for each label of the history, with the alternatives that the lines of that label
have added, in order.

Every name is a label, every alternative has a symbol, and every nonterminal in it names something.

Each alternative has only symbols that are admitted by the settings under which it was added. -/
theorem performAll_wellFormed (h : (performAll actions (fresh sampler)).1 = .ok ()) :
    let rules := (performAll actions (fresh sampler)).2.grammar.rules.toList
    let history := (fresh sampler).history actions
    rules = (newNames [] (history.map fun e => e.line.label)).map (fun name =>
        { name
          alternatives := (history.filter fun e => e.line.label = name).flatMap
            Addition.alternatives }) ∧
      (∀ r ∈ rules, IsLabel r.name ∧ ∀ a ∈ r.alternatives,
        a ≠ [] ∧ ∀ name, .nonterminal name ∈ a → IsReference name) ∧
      ∀ e ∈ history, ∀ a ∈ e.alternatives, ∀ s ∈ a,
        s.Admitted e.settings.mode e.settings.spacing := by
  intro rules history
  have stated : ∀ e ∈ history, e.Stated σ := fun e he => stated_of_mem_history _ h he
  refine ⟨rules_performAll h, fun r hr => ⟨isLabel_of_mem_rules h hr, fun a ha => ?_⟩,
    fun e he a ha => (alternatives_of_stated (stated e he) ha).2⟩
  rw [(of_mem_rules_performAll h hr).2] at ha
  obtain ⟨e, he, ha⟩ := List.mem_flatMap.mp ha
  obtain ⟨some, admitted⟩ := alternatives_of_stated (stated e (List.mem_of_mem_filter he)) ha
  exact ⟨some, fun name hn => (admitted _ hn).1⟩

/-- A label that ends in a colon and one in blanks, a carriage return inside a token, and a string
with a space in the place of a pattern, with spacing. -/
theorem performAll_wellFormed_mixed :
    let sampler : Prepared := ⟨[.ok ["1 2".toList]]⟩
    let actions : List (Action Prepared) :=
      [.source "a:: r \"x\ry\"\r\n\ta: ".toList, .mode .single, .spacing true,
        .source "a:: u \"\\n\" rP\n".toList]
    let rules := (performAll actions (fresh sampler)).2.grammar.rules.toList
    (performAll actions (fresh sampler)).1 = .ok () ∧
      rules =
        [{ name := ['a', ':']
           alternatives :=
            [[.nonterminal ['r'], .terminal ['x', '\r', 'y']],
             [.nonterminal ['u'], .terminal [' '], .terminal ['\n'], .terminal [' '],
              .terminal ['1', ' ', '2']]] },
         { name := ['a'], alternatives := [[.terminal []]] }] ∧
      ∀ r ∈ rules, IsLabel r.name := by
  intro sampler actions rules
  have succeeds : (performAll actions (fresh sampler)).1 = .ok () := by decide
  obtain ⟨told, labels, -⟩ := performAll_wellFormed succeeds
  exact ⟨succeeds, told.trans (by decide), fun r hr => (labels r hr).1⟩

end Workbench
end LineGrammar
