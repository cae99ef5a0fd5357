import LineGrammar.Proofs.Grammar.Rules
import LineGrammar.Proofs.Reading
import Mathlib.Data.List.Forall2

/-! # What a source adds to a grammar

The lines of a source are read one after another, each with the sampler that the line before it
leaves, and each adds its alternatives to the rule of its label.  A source can be added exactly if
every line is a rule and the sampler gives whatever it is asked for on the way; then the grammar is
the old one extended by what was read (`addSource_accumulates`). -/

namespace LineGrammar

open Step

variable {σ : Type} [Sampler σ] (settings : Settings)

/-- A sampler that gives prepared answers, one for each request. -/
structure Prepared where
  answers : List (Except PatternError (List Text))

instance : Sampler Prepared where
  sample
    | ⟨[]⟩, pattern, _ => (.error { pattern, reason := "no answer is left".toList }, ⟨[]⟩)
    | ⟨answer :: answers⟩, _, _ => (answer, ⟨answers⟩)

theorem compileLine_of_some (n : Nat) {line : Text} {rule : RuleLine}
    (h : RuleLine.parse? line = some rule) :
    compileLine settings n line =
      (fun parts => (rule.label, Alternative.ofParts settings.spacing parts)) <$>
        Part.ofTokens settings.mode settings.samples rule.tokens := by
  unfold compileLine RuleLine.parse
  rw [h, map_eq_pure_bind]
  exact pure_bind rule _

theorem compileLine_of_none (n : Nat) {line : Text} (h : RuleLine.parse? line = none) :
    compileLine settings n line = throw (.malformedRule n (Text.chomp line)) := by
  unfold compileLine RuleLine.parse
  rw [h]
  rfl

/-- Lines are compiled in the same way if each of them is, under whatever number. -/
theorem compileLines_congr {settings settings' : Settings} {lines lines' : List Text}
    (h : List.Forall₂ (fun line line' =>
      ∀ n, compileLine settings n line = compileLine settings' n line') lines lines')
    (n : Nat) (g : Grammar) :
    compileLines settings n lines g = compileLines settings' n lines' g := by
  induction h generalizing n g with
  | nil => rfl
  | cons first _ ih => simp only [compileLines, first, ih]

theorem yields_parse (n : Nat) (line : Text) (s s' : σ) (rule : RuleLine) :
    Yields (ExceptT.mk (pure (RuleLine.parse n line))) s rule s' ↔
      RuleLine.parse? line = some rule ∧ s' = s := by
  rw [yields_mk]
  unfold RuleLine.parse
  cases RuleLine.parse? line <;> simp

/-- A line that is a rule adds what its readings say, if the sampler gives what it is asked for. -/
theorem yields_compileLine (n : Nat) (line : Text) (s s' : σ) (added : Text × List Alternative) :
    Yields (compileLine settings n line) s added s' ↔
      ∃ rule, RuleLine.parse? line = some rule ∧
        (∀ r ∈ (readLine settings s rule).1.readings, r.Fulfilled settings.mode) ∧
        added = (rule.label, alternativesOf settings (readLine settings s rule).1.readings) ∧
        s' = (readLine settings s rule).2 := by
  unfold compileLine
  simp only [yields_bind, yields_pure, yields_parse, yields_ofTokens]
  constructor
  · rintro ⟨rule, _, ⟨hp, rfl⟩, parts, _, ⟨hf, rfl, rfl⟩, rfl, rfl⟩
    rw [ofParts_part]
    exact ⟨rule, hp, hf, rfl, rfl⟩
  · rintro ⟨rule, hp, hf, rfl, rfl⟩
    refine ⟨rule, s, ⟨hp, rfl⟩, _, _, ⟨hf, rfl, rfl⟩, ?_, rfl⟩
    rw [ofParts_part]
    rfl

/-- Lines extend a grammar by what their readings say, if all of them are rules and the sampler
gives whatever it is asked for. -/
theorem yields_compileLines (n : Nat) (lines : List Text) (g g' : Grammar) (s s' : σ) :
    Yields (compileLines settings n lines g) s g' s' ↔
      (∀ line ∈ lines, (RuleLine.parse? line).isSome) ∧
        (∀ l ∈ (readLines settings s (lines.filterMap RuleLine.parse?)).1, ∀ r ∈ l.readings,
          r.Fulfilled settings.mode) ∧
        g' = g.extendAll
          ((readLines settings s (lines.filterMap RuleLine.parse?)).1.map
            (ReadLine.rule settings)) ∧
        s' = (readLines settings s (lines.filterMap RuleLine.parse?)).2 := by
  induction lines generalizing n g g' s s' with
  | nil =>
      unfold compileLines
      rw [yields_pure]
      simp [readLines, thread, Grammar.extendAll]
  | cons line lines ih =>
      unfold compileLines
      simp only [yields_bind, yields_compileLine, ih]
      cases hp : RuleLine.parse? line with
      | none =>
          simp [hp]
      | some rule =>
          rw [List.filterMap_cons_some hp]
          constructor
          · rintro ⟨_, _, ⟨_, ⟨rfl⟩, hf, rfl, rfl⟩, hps, hfs, rfl, rfl⟩
            exact ⟨List.forall_mem_cons.mpr ⟨by simp [hp], hps⟩,
              List.forall_mem_cons.mpr ⟨hf, hfs⟩, rfl, rfl⟩
          · rintro ⟨hps, hfs, rfl, rfl⟩
            exact ⟨_, _, ⟨rule, rfl, (List.forall_mem_cons.mp hfs).1, rfl, rfl⟩,
              (List.forall_mem_cons.mp hps).2, (List.forall_mem_cons.mp hfs).2, rfl, rfl⟩

/-! ### Sources -/

namespace Workbench

variable (w : Workbench σ) (source : Text)

/-- What is read in a source, line by line, and the sampler after it. -/
def readSource : List ReadLine × σ :=
  readLines w.settings w.sampler ((Text.lines source).filterMap RuleLine.parse?)

/-- Every line of the source is a rule, and the sampler gives whatever it is asked for. -/
def Accepts : Prop :=
  (∀ line ∈ Text.lines source, (RuleLine.parse? line).isSome) ∧
    ∀ l ∈ (w.readSource source).1, ∀ r ∈ l.readings, r.Fulfilled w.settings.mode

instance : Decidable (w.Accepts source) := inferInstanceAs (Decidable (_ ∧ _))

def contributions : List Rule := (w.readSource source).1.map (ReadLine.rule w.settings)

theorem yields_compile (g' : Grammar) (s' : σ) :
    Yields (compile w.settings source w.grammar) w.sampler g' s' ↔
      w.Accepts source ∧ g' = w.grammar.extendAll (w.contributions source) ∧
        s' = (w.readSource source).2 := by
  unfold compile Accepts contributions readSource
  rw [yields_compileLines]
  simp only [and_assoc]

theorem addSource_of_yields {g' : Grammar} {s' : σ}
    (h : Yields (compile w.settings source w.grammar) w.sampler g' s') :
    w.addSource source = (.ok (), { w with grammar := g', sampler := s' }) := by
  unfold addSource
  rw [show (compile w.settings source w.grammar).run.run w.sampler = (.ok g', s') from h]

theorem yields_of_addSource (h : (w.addSource source).1 = .ok ()) :
    ∃ g' s', Yields (compile w.settings source w.grammar) w.sampler g' s' := by
  unfold addSource at h
  split at h
  · rename_i g' s' hr
    exact ⟨g', s', hr⟩
  · cases h

theorem addSource_of_accepts (h : w.Accepts source) :
    w.addSource source =
      (.ok (), { w with
        grammar := w.grammar.extendAll (w.contributions source)
        sampler := (w.readSource source).2 }) :=
  w.addSource_of_yields source ((w.yields_compile source _ _).mpr ⟨h, rfl, rfl⟩)

theorem accepts_of_addSource (h : (w.addSource source).1 = .ok ()) : w.Accepts source := by
  obtain ⟨g', s', yields⟩ := w.yields_of_addSource source h
  exact ((w.yields_compile source g' s').mp yields).1

/-- What the read lines of a name add to its rule. -/
def addedBy (settings : Settings) (lines : List ReadLine) (name : Text) : List Alternative :=
  (lines.filter fun l => l.label = name).flatMap fun l => alternativesOf settings l.readings

theorem rules_addSource (h : w.Accepts source) :
    (w.addSource source).2.grammar.rules.toList =
      w.grammar.rulesWith ((w.readSource source).1.map ReadLine.label)
        (addedBy w.settings (w.readSource source).1) := by
  rw [w.addSource_of_accepts source h]
  dsimp only
  rw [Grammar.rules_extendAll_eq_rulesWith]
  unfold contributions
  rw [List.map_map]
  congr 1
  funext name
  rw [List.filter_map, List.flatMap_map]
  rfl

/-- **Adding a source accumulates**: it succeeds exactly if every line is a rule and the sampler
gives whatever it is asked for.  Then the old rules stay where they are, the labels that are not
known yet follow in the order of their first appearance, and every rule gains the alternatives of
the lines of its label, in order. -/
theorem addSource_accumulates :
    ((w.addSource source).1 = .ok () ↔ w.Accepts source) ∧
      ((w.addSource source).1 = .ok () →
        (w.addSource source).2.grammar.rules.toList =
          (w.grammar.rules.toList ++
            (newNames w.grammar.names ((w.contributions source).map Rule.name)).map Rule.bare).map
              (Rule.extended (w.contributions source)) ∧
        (w.addSource source).2.settings = w.settings ∧
        (w.addSource source).2.sampler = (w.readSource source).2) := by
  have accepts : (w.addSource source).1 = .ok () → w.Accepts source := by
    intro h
    obtain ⟨g', s', hy⟩ := w.yields_of_addSource source h
    exact ((w.yields_compile source g' s').mp hy).1
  refine ⟨⟨accepts, fun h => by rw [w.addSource_of_accepts source h]⟩, fun h => ?_⟩
  rw [w.addSource_of_accepts source (accepts h)]
  exact ⟨w.grammar.rules_extendAll _, rfl, rfl⟩

/-- Two lines of one label around a line of a rule that is there already, with two patterns on a
line and an answer without strings. -/
theorem addSource_accumulates_interleaved :
    let w : Workbench Prepared :=
      { grammar := Grammar.empty.extend ['b'] [[.nonterminal ['x']]]
        settings := { mode := .multi, spacing := true }
        sampler := ⟨[.ok ["1r".toList, "\"2\"".toList], .ok [], .ok [['3']]]⟩ }
    let source := "a: \"u\" v\nb: y rP rQ\n a : rS".toList
    (w.addSource source).1 = .ok () ∧
      (w.addSource source).2.grammar.rules.toList =
        [{ name := ['b']
           alternatives := [[.nonterminal ['x']], [.terminal ['1']], [.terminal ['2']]] },
         { name := ['a']
           alternatives :=
            [[.terminal ['u'], .terminal [' '], .nonterminal ['v']], [.terminal ['3']]] }] := by
  intro w source
  have h : (w.addSource source).1 = .ok () := (w.addSource_accumulates source).1.mpr (by decide)
  refine ⟨h, ?_⟩
  rw [((w.addSource_accumulates source).2 h).1]
  decide

end Workbench
end LineGrammar
