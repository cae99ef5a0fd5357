import LineGrammar.Proofs.Requests

/-! # Contributions apart from a grammar

What a line adds does not depend on the grammar that it is added to.  So the contributions of all
lines can be gathered first, and the grammar extended by them at the end (`compileLines_eq_map`):
the error, the requests and the sampler of a source are those of gathering its contributions. -/

namespace LineGrammar

open Step

variable {σ : Type} [Sampler σ] (settings : Settings)

/-- The contributions of lines, of which the first has the number `n`. -/
def gatherLines (n : Nat) : List Text → Step (List Rule)
  | [] => return []
  | line :: lines => do
    let (name, alternatives) ← compileLine settings n line
    let rules ← gatherLines (n + 1) lines
    return { name, alternatives } :: rules

def gather (source : Text) : Step (List Rule) := gatherLines settings 1 (Text.lines source)

/-- Lines are compiled by gathering their contributions and extending the grammar by them. -/
theorem compileLines_eq_map (n : Nat) (lines : List Text) (g : Grammar) :
    compileLines settings n lines g = g.extendAll <$> gatherLines settings n lines := by
  induction lines generalizing n g with
  | nil => rfl
  | cons line lines ih =>
      unfold compileLines gatherLines
      rw [map_bind]
      congr 1
      funext added
      obtain ⟨name, alternatives⟩ := added
      dsimp only
      rw [ih, map_bind, map_eq_pure_bind]
      rfl

namespace Workbench

variable (w : Workbench σ) (source : Text)

omit [Sampler σ] in
theorem compile_eq_map :
    compile w.settings source w.grammar = w.grammar.extendAll <$> gather w.settings source :=
  compileLines_eq_map w.settings 1 (Text.lines source) w.grammar

/-- The result, the requests and the sampler of a source are those of its contributions. -/
theorem addSource_eq_gather :
    (w.addSource source).1 = (outcome (gather w.settings source) w.sampler).1.map (fun _ => ()) ∧
      w.requests source = Step.requests (gather w.settings source) w.sampler ∧
      (w.addSource source).2.sampler = (outcome (gather w.settings source) w.sampler).2 := by
  rw [addSource_fst, requests_eq, sampler_addSource, compile_eq_map, outcome_map, requests_map]
  rcases outcome (gather w.settings source) w.sampler with ⟨_ | _, _⟩ <;> exact ⟨rfl, rfl, rfl⟩

end Workbench
end LineGrammar
