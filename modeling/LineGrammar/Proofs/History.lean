import LineGrammar.Proofs.Compilation

/-! # What a run of actions adds

A workbench goes through a run of actions, which change its settings and its sampler and add
sources.  The `history` of a run holds the lines of all its sources as they were read, each with the
settings that it was compiled with.  Where all actions succeed, the grammar is the old one extended
by the lines of the history (`grammar_performAll`), and each of these is a rule that was read from a
line of a source and given whatever it asked for (`stated_of_mem_history`). -/

namespace LineGrammar

variable {σ : Type} [Sampler σ]

/-- A line that has been added, and the settings that it was compiled with. -/
structure Addition where
  settings : Settings
  line : ReadLine

namespace Addition

variable (e : Addition)

/-- The alternatives that the line has added. -/
def alternatives : List Alternative := alternativesOf e.settings e.line.readings

def rule : Rule := { name := e.line.label, alternatives := e.alternatives }

/-- The line stands in a source, it is a rule, and the sampler has given whatever its tokens asked
for. -/
def Stated (σ : Type) [Sampler σ] : Prop :=
  ∃ (source line : Text) (rule : RuleLine) (s : σ),
    line ∈ Text.lines source ∧ RuleLine.parse? line = some rule ∧
      e.line = (readLine e.settings s rule).1 ∧ ∀ r ∈ e.line.readings, r.Fulfilled e.settings.mode

end Addition

namespace Workbench

variable (w : Workbench σ)

/-- The workbench with nothing in its grammar and the settings as they are at first. -/
def fresh (sampler : σ) : Workbench σ := { sampler }

/-- The lines that an action adds. -/
def additions : Action σ → List Addition
  | .source source => (w.readSource source).1.map fun line => { settings := w.settings, line }
  | _ => []

/-- The lines that the actions of a run add, in order. -/
def history : Workbench σ → List (Action σ) → List Addition
  | _, [] => []
  | w, a :: as => w.additions a ++ history (w.perform a).2 as

theorem grammar_perform {a : Action σ} (h : (w.perform a).1 = .ok ()) :
    (w.perform a).2.grammar = w.grammar.extendAll ((w.additions a).map Addition.rule) := by
  cases a with
  | mode => rfl
  | spacing => rfl
  | samples => rfl
  | sampler => rfl
  | source source =>
      have accepts := w.accepts_of_addSource source h
      unfold perform additions
      dsimp only
      rw [w.addSource_of_accepts source accepts, List.map_map]
      rfl

theorem performAll_cons (a : Action σ) (as : List (Action σ)) :
    performAll (a :: as) w =
      match (w.perform a).1 with
      | .ok () => performAll as (w.perform a).2
      | .error e => (.error e, (w.perform a).2) := by
  rw [performAll]
  rcases w.perform a with ⟨_ | _, _⟩ <;> rfl

/-- A run succeeds if its first action does and the rest does after it. -/
theorem of_performAll_cons {a : Action σ} {as : List (Action σ)}
    (h : (performAll (a :: as) w).1 = .ok ()) :
    (w.perform a).1 = .ok () ∧ (performAll as (w.perform a).2).1 = .ok () ∧
      (performAll (a :: as) w).2 = (performAll as (w.perform a).2).2 := by
  rw [performAll_cons] at h ⊢
  split at h
  · rename_i first
    rw [first]
    exact ⟨rfl, h, rfl⟩
  · cases h

theorem stated_of_mem_additions {a : Action σ} (h : (w.perform a).1 = .ok ()) {e : Addition}
    (he : e ∈ w.additions a) : e.Stated σ := by
  cases a with
  | source source =>
      have accepts := w.accepts_of_addSource source h
      obtain ⟨line, hline, rfl⟩ := List.mem_map.mp he
      obtain ⟨s, rule, hrule, read⟩ := mem_thread hline
      obtain ⟨text, htext, parsed⟩ := List.mem_filterMap.mp hrule
      exact ⟨source, text, rule, s, htext, parsed, read, accepts.2 line hline⟩
  | _ => exact (nomatch he)

/-- A run that succeeds extends the grammar by the lines of its history. -/
theorem grammar_performAll {actions : List (Action σ)}
    (h : (performAll actions w).1 = .ok ()) :
    (performAll actions w).2.grammar =
      w.grammar.extendAll ((w.history actions).map Addition.rule) := by
  induction actions generalizing w with
  | nil => rfl
  | cons a as ih =>
      obtain ⟨first, rest, state⟩ := w.of_performAll_cons h
      unfold history
      rw [state, ih (w.perform a).2 rest, w.grammar_perform first, List.map_append,
        Grammar.extendAll_append]

theorem stated_of_mem_history {actions : List (Action σ)} (h : (performAll actions w).1 = .ok ())
    {e : Addition} (he : e ∈ w.history actions) : e.Stated σ := by
  induction actions generalizing w with
  | nil => exact (nomatch he)
  | cons a as ih =>
      obtain ⟨first, rest, -⟩ := w.of_performAll_cons h
      rcases List.mem_append.mp he with he | he
      · exact w.stated_of_mem_additions first he
      · exact ih (w.perform a).2 rest he

/-- From nothing on, a run that succeeds leaves a rule for each label of its history, with what the
lines of that label have added. -/
theorem rules_performAll {sampler : σ} {actions : List (Action σ)}
    (h : (performAll actions (fresh sampler)).1 = .ok ()) :
    (performAll actions (fresh sampler)).2.grammar.rules.toList =
      (newNames [] (((fresh sampler).history actions).map fun e => e.line.label)).map fun name =>
        { name
          alternatives := (((fresh sampler).history actions).filter fun e =>
            e.line.label = name).flatMap Addition.alternatives } := by
  have empty : (fresh sampler).grammar = Grammar.empty := rfl
  rw [grammar_performAll _ h, empty, Grammar.rules_extendAll_empty, List.map_map]
  refine List.map_congr_left fun name _ => ?_
  rw [List.filter_map, List.flatMap_map]
  rfl

/-- A rule that such a run leaves has a line in the history, and its alternatives are those that the
lines of its label have added. -/
theorem of_mem_rules_performAll {sampler : σ} {actions : List (Action σ)}
    (h : (performAll actions (fresh sampler)).1 = .ok ()) {r : Rule}
    (hr : r ∈ (performAll actions (fresh sampler)).2.grammar.rules.toList) :
    (∃ e ∈ (fresh sampler).history actions, e.line.label = r.name) ∧
      r.alternatives = (((fresh sampler).history actions).filter fun e =>
        e.line.label = r.name).flatMap Addition.alternatives := by
  rw [rules_performAll h] at hr
  obtain ⟨name, first, rfl⟩ := List.mem_map.mp hr
  have label : name ∈ ((fresh sampler).history actions).map fun e => e.line.label :=
    (mem_append_newNames.mp (List.mem_append_right [] first)).resolve_left List.not_mem_nil
  exact ⟨List.mem_map.mp label, rfl⟩

end Workbench
end LineGrammar
