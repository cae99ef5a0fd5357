import LineGrammar.Proofs.Gathering

/-! # Spacing comes last

Spacing changes what a line adds and nothing else: it is a pass over the alternatives, after the
tokens have been read and the sampler has been asked.  On a line that fans out there is nothing for
the pass to do, for the alternatives have one symbol each (`ofParts_spacing`).  So a source has the
same result, the same requests and the same sampler with and without spacing, and the alternatives
that it adds differ by the pass only (`addSource_spacing`). -/

namespace LineGrammar

open Step

variable {σ : Type} [Sampler σ] (settings : Settings)

/-- With spacing, a line's parts become what they become without it, spaced. -/
theorem ofParts_spacing (parts : List Part) :
    Alternative.ofParts true parts = (Alternative.ofParts false parts).map Alternative.spaced := by
  unfold Alternative.ofParts
  cases parts.filterMap Part.fanOut? with
  | nil => rfl
  | cons fan fans =>
      -- An alternative of one symbol is not changed by the pass.
      rw [List.map_map]
      rfl

/-- The rule with its alternatives spaced. -/
def Rule.spaced (r : Rule) : Rule :=
  { r with alternatives := r.alternatives.map Alternative.spaced }

theorem compileLine_spacing (n : Nat) (line : Text) :
    compileLine { settings with spacing := true } n line =
      (fun added => (added.1, added.2.map Alternative.spaced)) <$>
        compileLine { settings with spacing := false } n line := by
  cases h : RuleLine.parse? line with
  | none =>
      rw [compileLine_of_none _ n h, compileLine_of_none _ n h]
      rfl
  | some rule =>
      rw [compileLine_of_some _ n h, compileLine_of_some _ n h]
      simp only [ofParts_spacing, Functor.map_map]

theorem gatherLines_spacing (n : Nat) (lines : List Text) :
    gatherLines { settings with spacing := true } n lines =
      List.map Rule.spaced <$> gatherLines { settings with spacing := false } n lines := by
  induction lines generalizing n with
  | nil => rfl
  | cons line lines ih =>
      unfold gatherLines
      rw [compileLine_spacing, ih, map_bind, map_eq_pure_bind, bind_assoc]
      congr 1
      funext added
      obtain ⟨name, alternatives⟩ := added
      simp only [pure_bind, map_eq_pure_bind, bind_assoc]
      rfl

theorem alternativesOf_spacing (readings : List Reading) :
    alternativesOf { settings with spacing := true } readings =
      (alternativesOf { settings with spacing := false } readings).map Alternative.spaced := by
  rw [← ofParts_part, ← ofParts_part]
  exact ofParts_spacing _

/-- A read line that fans out adds the same with and without spacing. -/
theorem alternativesOf_fan {readings : List Reading}
    (h : ∃ r ∈ readings, r.fansOut settings.mode = true) (spacing : Bool) :
    alternativesOf { settings with spacing } readings = alternativesOf settings readings := by
  obtain ⟨r, hr, hf⟩ := h
  have fans : readings.filter (Reading.fansOut settings.mode) ≠ [] :=
    List.ne_nil_of_mem (List.mem_filter.mpr ⟨hr, hf⟩)
  unfold alternativesOf
  simp only [if_neg fans]

/-! ### Sources -/

namespace Workbench

variable (w : Workbench σ) (source : Text)

/-- **Spacing comes last.**  With and without spacing a source has the same result, with the same
error if there is one, makes the same requests and leaves the same sampler.  If it is accepted, the
old rules keep their alternatives and the labels come in the same order; what each rule is given
differs by the pass over its alternatives only, and what it is given by a line that fans out does
not differ at all. -/
theorem addSource_spacing :
    let on : Workbench σ := { w with settings.spacing := true }
    let off : Workbench σ := { w with settings.spacing := false }
    (on.addSource source).1 = (off.addSource source).1 ∧
      on.requests source = off.requests source ∧
      (on.addSource source).2.sampler = (off.addSource source).2.sampler ∧
      ((off.addSource source).1 = .ok () →
        let lines := (w.readSource source).1
        (on.addSource source).2.grammar.rules.toList =
            w.grammar.rulesWith (lines.map ReadLine.label) (addedBy on.settings lines) ∧
          (off.addSource source).2.grammar.rules.toList =
            w.grammar.rulesWith (lines.map ReadLine.label) (addedBy off.settings lines) ∧
          (∀ name, addedBy on.settings lines name =
            (addedBy off.settings lines name).map Alternative.spaced) ∧
          ∀ l ∈ lines, (∃ r ∈ l.readings, r.fansOut w.settings.mode) →
            alternativesOf on.settings l.readings = alternativesOf off.settings l.readings) := by
  intro on off
  have gathered : gather on.settings source = List.map Rule.spaced <$> gather off.settings source :=
    gatherLines_spacing w.settings 1 _
  obtain ⟨resultOn, requestsOn, samplerOn⟩ := on.addSource_eq_gather source
  obtain ⟨resultOff, requestsOff, samplerOff⟩ := off.addSource_eq_gather source
  rw [gathered, outcome_map] at resultOn samplerOn
  rw [gathered, requests_map] at requestsOn
  refine ⟨?_, requestsOn.trans requestsOff.symm, samplerOn.trans samplerOff.symm, fun h => ?_⟩
  · rw [resultOn, resultOff]
    rcases outcome (gather off.settings source) off.sampler with ⟨_ | _, _⟩ <;> rfl
  · have accepts := off.accepts_of_addSource source h
    refine ⟨on.rules_addSource source accepts, off.rules_addSource source accepts,
      fun name => ?_, fun l _ fan => ?_⟩
    · unfold addedBy
      rw [List.map_flatMap]
      simp only [alternativesOf_spacing, on, off]
    · rw [alternativesOf_fan w.settings fan true, alternativesOf_fan w.settings fan false]

/-- A rule that is there already, a line with a backslash and an `n` in a terminal, a line that fans
out, and a line of one terminal. -/
theorem addSource_spacing_fan :
    let w : Workbench Prepared :=
      { grammar := Grammar.empty.extend ['b'] [[.nonterminal ['x'], .nonterminal ['y']]]
        settings := { mode := .multi }
        sampler := ⟨[.ok ["1".toList, "\\n".toList]]⟩ }
    let on : Workbench Prepared := { w with settings.spacing := true }
    let source := "b: \"u\\nv\" z\na: x rP\na: \"\\n\"".toList
    (on.addSource source).1 = .ok () ∧ on.requests source = [(['P'], 15)] ∧
      (on.addSource source).2.grammar.rules.toList =
        [{ name := ['b']
           alternatives :=
            [[.nonterminal ['x'], .nonterminal ['y']],
             [.terminal ['u', '\n', 'v'], .terminal [' '], .nonterminal ['z']]] },
         { name := ['a']
           alternatives :=
            [[.terminal ['1']], [.terminal ['\\', 'n']], [.terminal ['\\', 'n']]] }] := by
  intro w on source
  obtain ⟨result, requests, -, added⟩ := w.addSource_spacing source
  obtain ⟨rules, -, -, -⟩ := added (by decide)
  refine ⟨result.trans (by decide), requests.trans (by decide), ?_⟩
  rw [rules]
  decide

end Workbench
end LineGrammar
