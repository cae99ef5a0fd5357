import LineGrammar.Proofs.History
import LineGrammar.Proofs.Verdict

/-! # Rules without alternatives

A rule is declared by every line of its label, and a line adds an alternative unless it fans out and
the sampler answers all its patterns without a string (`Addition.IsBarren`).  Such an answer is an
error where one string takes the place of a pattern, and none where several strings do
(`outcome_ofToken_of_nil`).  So a run that succeeds leaves a rule without alternatives exactly if
all lines of its label are barren (`performAll_barren`). -/

namespace LineGrammar

open Step

variable {σ : Type} [Sampler σ]

/-- An answer without a string is refused where one string takes the place of the pattern.  Where
several strings do, it is taken, and the token fans out into nothing. -/
theorem outcome_ofToken_of_nil {mode : Mode} {samples count : Nat} {token pattern : Text}
    (asked : request? mode samples token = some (pattern, count)) {s s' : σ}
    (nothing : Sampler.sample s pattern count = (.ok [], s')) :
    outcome (Part.ofToken mode samples token) s =
      (if mode = .single then
          .error (.pattern { pattern, reason := "sampler returned no strings".toList })
        else .ok (.fanOut []), s') := by
  rw [ofToken_eq, asked]
  rcases mode_of_request? asked with ⟨rfl, rfl⟩ | ⟨rfl, rfl⟩
  · simp only [if_true, outcome_ofPattern, nothing]
  · simp only [reduceCtorEq, if_false, outcome_ofPatternFan, nothing]
    rfl

namespace Addition

/-- The line fans out, and the sampler has answered its patterns without a string. -/
def IsBarren (e : Addition) : Prop :=
  (∃ r ∈ e.line.readings, r.fansOut e.settings.mode) ∧
    ∀ r ∈ e.line.readings, r.fansOut e.settings.mode → r.strings = []

variable {e : Addition}

theorem alternatives_eq_nil_iff : e.alternatives = [] ↔ e.IsBarren := by
  unfold alternatives alternativesOf IsBarren
  dsimp only
  split
  · rename_i unfanned
    refine iff_of_false (List.cons_ne_nil _ _) ?_
    rintro ⟨⟨r, hr, fan⟩, -⟩
    exact List.filter_eq_nil_iff.mp unfanned r hr fan
  · rename_i fanned
    have fans : ∃ r ∈ e.line.readings, r.fansOut e.settings.mode := by
      obtain ⟨r, hr⟩ := List.exists_mem_of_ne_nil _ fanned
      exact ⟨r, List.mem_filter.mp hr⟩
    rw [List.map_eq_nil_iff, List.flatMap_eq_nil_iff, and_iff_right fans]
    simp only [List.mem_filter, and_imp]

/-- A barren line has been compiled in the mode of several strings, and one of its tokens has an
answer without a string. -/
theorem exists_nil_of_isBarren (stated : e.Stated σ) (barren : e.IsBarren) :
    e.settings.mode = .multi ∧ ∃ r ∈ e.line.readings, r.answer? = some (.ok []) := by
  obtain ⟨_, _, _, _, -, -, -, fulfilled⟩ := stated
  obtain ⟨⟨r, hr, fan⟩, nothing⟩ := barren
  obtain ⟨multi, asked⟩ : e.settings.mode = .multi ∧ r.answer?.isSome := of_decide_eq_true fan
  refine ⟨multi, r, hr, ?_⟩
  have enough := fulfilled r hr
  have unanswered := nothing r hr fan
  unfold Reading.Fulfilled at enough
  unfold Reading.strings at unanswered
  obtain ⟨answer, ha⟩ := Option.isSome_iff_exists.mp asked
  rw [ha] at enough unanswered ⊢
  cases answer with
  | error => exact enough.elim
  | ok strings => rw [show strings = [] from unanswered]

theorem exists_sample_of_stated (stated : e.Stated σ) {r : Reading} (hr : r ∈ e.line.readings)
    {answer : Except PatternError (List Text)} (h : r.answer? = some answer) :
    ∃ (s : σ) (pattern : Text) (count : Nat), (Sampler.sample s pattern count).1 = answer := by
  obtain ⟨_, _, _, _, -, -, read, -⟩ := stated
  rw [read] at hr
  obtain ⟨s, token, -, rfl⟩ := mem_thread hr
  unfold readToken at h
  split at h
  · cases h
  · rename_i pattern count _
    exact ⟨s, pattern, count, Option.some.inj h⟩

end Addition

/-! ### Runs -/

namespace Workbench

variable {sampler : σ} {actions : List (Action σ)}

/-- **Rules without alternatives.**  After any run of actions that succeeds, from nothing on:

A rule has no alternatives exactly if all lines of its label are barren.

A rule without alternatives has a line, and every line of it has been compiled in the mode of
several strings and has a token with an answer without a string.

If no sampler ever answers without a string, every rule has an alternative. -/
theorem performAll_barren (h : (performAll actions (fresh sampler)).1 = .ok ()) :
    let rules := (performAll actions (fresh sampler)).2.grammar.rules.toList
    let history := (fresh sampler).history actions
    (∀ r ∈ rules, r.alternatives = [] ↔ ∀ e ∈ history, e.line.label = r.name → e.IsBarren) ∧
      (∀ r ∈ rules, r.alternatives = [] →
        (∃ e ∈ history, e.line.label = r.name) ∧
          ∀ e ∈ history, e.line.label = r.name →
            e.settings.mode = .multi ∧ ∃ r ∈ e.line.readings, r.answer? = some (.ok [])) ∧
      ((∀ (s : σ) (pattern : Text) (count : Nat), (Sampler.sample s pattern count).1 ≠ .ok []) →
        ∀ r ∈ rules, r.alternatives ≠ []) := by
  intro rules history
  have stated : ∀ e ∈ history, e.Stated σ := fun e he => stated_of_mem_history _ h he
  have lines : ∀ r ∈ rules, ∃ e ∈ history, e.line.label = r.name :=
    fun r hr => (of_mem_rules_performAll h hr).1
  have barren : ∀ r ∈ rules,
      r.alternatives = [] ↔ ∀ e ∈ history, e.line.label = r.name → e.IsBarren := by
    intro r hr
    rw [(of_mem_rules_performAll h hr).2, List.flatMap_eq_nil_iff]
    simp only [List.mem_filter, decide_eq_true_eq, and_imp, Addition.alternatives_eq_nil_iff]
    exact Iff.rfl
  refine ⟨barren, fun r hr none => ⟨lines r hr, fun e he label => ?_⟩, fun some r hr none => ?_⟩
  · exact Addition.exists_nil_of_isBarren (stated e he) ((barren r hr).mp none e he label)
  · obtain ⟨e, he, label⟩ := lines r hr
    obtain ⟨-, r', hr', nothing⟩ :=
      Addition.exists_nil_of_isBarren (stated e he) ((barren r hr).mp none e he label)
    obtain ⟨s, pattern, count, given⟩ :=
      Addition.exists_sample_of_stated (stated e he) hr' nothing
    exact some s pattern count given

/-- Two labels whose lines have answers without a string.  One of them has another line as well, and
so it has an alternative. -/
theorem performAll_barren_shared :
    let sampler : Prepared := ⟨[.ok [], .ok [], .ok ["1".toList]]⟩
    let actions : List (Action Prepared) := [.mode .multi, .source "a: rx\nb: ry\nb: rz\n".toList]
    let rules := (performAll actions (fresh sampler)).2.grammar.rules.toList
    (performAll actions (fresh sampler)).1 = .ok () ∧
      rules = [{ name := ['a'] }, { name := ['b'], alternatives := [[.terminal ['1']]] }] ∧
      ∀ e ∈ (fresh sampler).history actions, e.line.label = ['a'] → e.IsBarren := by
  intro sampler actions rules
  have succeeds : (performAll actions (fresh sampler)).1 = .ok () := by decide
  have told : rules =
      [{ name := ['a'] }, { name := ['b'], alternatives := [[.terminal ['1']]] }] := by decide
  have first : { name := ['a'] } ∈ rules := by
    rw [told]
    exact List.mem_cons_self
  exact ⟨succeeds, told, ((performAll_barren succeeds).1 _ first).mp rfl⟩

/-- A run that succeeds may leave a rule without alternatives. -/
theorem exists_rule_without_alternatives :
    ∃ (sampler : Prepared) (actions : List (Action Prepared)),
      (performAll actions (fresh sampler)).1 = .ok () ∧
        ∃ r ∈ (performAll actions (fresh sampler)).2.grammar.rules.toList, r.alternatives = [] :=
  ⟨⟨[.ok []]⟩, [.mode .multi, .source "a: rx\n".toList], by decide⟩

end Workbench
end LineGrammar
