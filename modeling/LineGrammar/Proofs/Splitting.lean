import LineGrammar.Proofs.Requests
import LineGrammar.Proofs.Text.Lines

/-! # Sources in pieces

A source may be added in pieces that are cut where a line ends.  The lines of the second piece are
then compiled with the grammar and the sampler that the first piece leaves, and only their numbers
are smaller (`compileLines_append`, `compileLines_add`); so the pieces one after another do what the
whole source does (`addSource_append`). -/

namespace LineGrammar

open Step

/-- The error with its line counted from `n` lines further up. -/
def ConversionError.shifted (n : Nat) : ConversionError → ConversionError
  | malformedRule line content => malformedRule (line + n) content
  | e => e

variable {σ : Type} [Sampler σ] (settings : Settings)

theorem compileLines_append (n : Nat) (as bs : List Text) (g : Grammar) :
    compileLines settings n (as ++ bs) g =
      compileLines settings n as g >>= compileLines settings (n + as.length) bs := by
  induction as generalizing n g with
  | nil =>
      rw [List.nil_append, compileLines, pure_bind, List.length_nil, Nat.add_zero]
  | cons a as ih =>
      have number : n + 1 + as.length = n + (a :: as).length := by
        rw [List.length_cons]
        omega
      simp only [List.cons_append, compileLines, bind_assoc, ih, number]

/-! ### Lines further down

Only a line that is no rule is reported with its number. -/

theorem adapt_sample (n : Nat) (pattern : Text) (count : Nat) :
    ExceptT.adapt (.shifted n) (Step.sample pattern count) = Step.sample pattern count := by
  apply ExceptT.ext
  rw [run_adapt]
  unfold Step.sample
  change Dialogue.ask _ _ _ = Dialogue.ask _ _ _
  congr 1
  funext answer
  cases answer <;> rfl

theorem adapt_ofPattern (n : Nat) (pattern : Text) :
    ExceptT.adapt (.shifted n) (Part.ofPattern pattern) = Part.ofPattern pattern := by
  unfold Part.ofPattern
  rw [adapt_bind, adapt_sample]
  congr 1
  funext strings
  cases strings <;> rfl

theorem adapt_ofPatternFan (n samples : Nat) (pattern : Text) :
    ExceptT.adapt (.shifted n) (Part.ofPatternFan samples pattern) =
      Part.ofPatternFan samples pattern := by
  unfold Part.ofPatternFan
  rw [adapt_bind, adapt_sample]
  rfl

theorem adapt_ofToken (n : Nat) (token : Text) :
    ExceptT.adapt (.shifted n) (Part.ofToken settings.mode settings.samples token) =
      Part.ofToken settings.mode settings.samples token := by
  rw [ofToken_eq]
  split
  · exact adapt_pure _ _
  · split
    · exact adapt_ofPattern n _
    · exact adapt_ofPatternFan n settings.samples _

theorem adapt_ofTokens (n : Nat) (tokens : List Text) :
    ExceptT.adapt (.shifted n) (Part.ofTokens settings.mode settings.samples tokens) =
      Part.ofTokens settings.mode settings.samples tokens := by
  induction tokens with
  | nil => exact adapt_pure _ _
  | cons token tokens ih =>
      unfold Part.ofTokens
      simp only [adapt_bind, adapt_ofToken, ih, adapt_pure]

theorem parse_add (n k : Nat) (line : Text) :
    RuleLine.parse (n + k) line = (RuleLine.parse n line).mapError (.shifted k) := by
  unfold RuleLine.parse
  cases RuleLine.parse? line <;> rfl

theorem compileLine_add (n k : Nat) (line : Text) :
    compileLine settings (n + k) line =
      ExceptT.adapt (.shifted k) (compileLine settings n line) := by
  unfold compileLine
  simp only [adapt_bind, adapt_ofTokens, adapt_pure]
  rw [parse_add]
  rfl

theorem compileLines_add (n k : Nat) (lines : List Text) (g : Grammar) :
    compileLines settings (n + k) lines g =
      ExceptT.adapt (.shifted k) (compileLines settings n lines g) := by
  induction lines generalizing n g with
  | nil => rfl
  | cons line lines ih =>
      unfold compileLines
      rw [adapt_bind, compileLine_add, Nat.add_right_comm]
      simp only [ih]

/-- A source whose first piece ends with a line is compiled piece by piece. -/
theorem compile_append {a : Text} (ha : a = [] ∨ a.getLast? = some '\n') (b : Text) (g : Grammar) :
    compile settings (a ++ b) g =
      compile settings a g >>= fun g =>
        ExceptT.adapt (.shifted (Text.lines a).length) (compile settings b g) := by
  unfold compile
  rw [Text.lines_append ha, compileLines_append]
  congr 1
  funext g
  exact compileLines_add settings 1 _ _ g

/-! ### Sources -/

namespace Workbench

section Pieces

variable (w : Workbench σ) {a : Text} (ha : a = [] ∨ a.getLast? = some '\n') (b : Text)

include ha

/-- Where the first piece fails, the second one is not read. -/
theorem addSource_append_of_error {e : ConversionError} {s₁ : σ}
    (h : outcome (compile w.settings a w.grammar) w.sampler = (.error e, s₁)) :
    w.addSource (a ++ b) = w.addSource a ∧ w.requests (a ++ b) = w.requests a := by
  have whole : outcome (compile w.settings (a ++ b) w.grammar) w.sampler = (.error e, s₁) := by
    rw [compile_append w.settings ha]
    exact outcome_bind_of_error h _
  constructor
  · rw [w.addSource_of_outcome_error _ whole, w.addSource_of_outcome_error _ h]
  · rw [requests_eq, requests_eq, compile_append w.settings ha, requests_bind_of_error h]

/-- Where the first piece succeeds, the second one is added to what it leaves. -/
theorem addSource_append_of_yields {g : Grammar} {s₁ : σ}
    (h : Yields (compile w.settings a w.grammar) w.sampler g s₁) :
    let v : Workbench σ := { w with grammar := g, sampler := s₁ }
    (w.addSource (a ++ b)).1 = (v.addSource b).1.mapError (.shifted (Text.lines a).length) ∧
      ((v.addSource b).1 = .ok () → (w.addSource (a ++ b)).2 = (v.addSource b).2) ∧
      (w.addSource (a ++ b)).2.sampler = (v.addSource b).2.sampler ∧
      w.requests (a ++ b) = w.requests a ++ v.requests b := by
  intro v
  have whole : outcome (compile w.settings (a ++ b) w.grammar) w.sampler =
      ((outcome (compile w.settings b g) s₁).1.mapError (.shifted (Text.lines a).length),
        (outcome (compile w.settings b g) s₁).2) := by
    rw [compile_append w.settings ha, outcome_bind_of_yields h, outcome_adapt]
  have asked : w.requests (a ++ b) = w.requests a ++ v.requests b := by
    rw [requests_eq, requests_eq, requests_eq, compile_append w.settings ha,
      requests_bind_of_yields h, requests_adapt]
  rcases hb : outcome (compile w.settings b g) s₁ with ⟨e | g', s₂⟩
  · rw [hb] at whole
    rw [w.addSource_of_outcome_error _ whole, v.addSource_of_outcome_error _ hb]
    exact ⟨rfl, fun hok => (nomatch hok), rfl, asked⟩
  · rw [hb] at whole
    rw [w.addSource_of_yields _ whole, v.addSource_of_yields _ hb]
    exact ⟨rfl, fun _ => rfl, rfl, asked⟩

/-- **A source may be added piece by piece**, if the first piece ends where a line ends.  If the
first piece fails, so does the whole source, with the same error and after the same requests; if it
succeeds, the whole source ends as the second piece does, which differs in the number of a line that
is no rule and in nothing else. -/
theorem addSource_append :
    (∀ e, (w.addSource a).1 = .error e →
      w.addSource (a ++ b) = w.addSource a ∧ w.requests (a ++ b) = w.requests a) ∧
      ((w.addSource a).1 = .ok () →
        (w.addSource (a ++ b)).1 =
          ((w.addSource a).2.addSource b).1.mapError (.shifted (Text.lines a).length) ∧
        (((w.addSource a).2.addSource b).1 = .ok () →
          (w.addSource (a ++ b)).2 = ((w.addSource a).2.addSource b).2) ∧
        (w.addSource (a ++ b)).2.sampler = ((w.addSource a).2.addSource b).2.sampler ∧
        w.requests (a ++ b) = w.requests a ++ (w.addSource a).2.requests b) := by
  rcases h : outcome (compile w.settings a w.grammar) w.sampler with ⟨e | g, s₁⟩
  · refine ⟨fun _ _ => w.addSource_append_of_error ha b h, fun hok => ?_⟩
    rw [w.addSource_of_outcome_error _ h] at hok
    cases hok
  · have first := w.addSource_of_yields a h
    refine ⟨fun e he => ?_, fun _ => ?_⟩
    · rw [first] at he
      cases he
    · rw [first]
      exact w.addSource_append_of_yields ha b h

end Pieces

/-- A piece of two lines before and after one with a line that is no rule, and before a last line
without an end. -/
theorem addSource_append_malformed :
    let w : Workbench Prepared :=
      { settings := { mode := .multi }, sampler := ⟨[.ok ["1".toList], .ok []]⟩ }
    let good := "a: rP\nb: x\n".toList
    let bad := "b: rQ\nc\r\n".toList
    let last := "b: y".toList
    (good.getLast? = some '\n' ∧ bad.getLast? = some '\n') ∧
      (w.addSource (good ++ bad)).1 = .error (.malformedRule 4 ['c']) ∧
      w.requests (good ++ bad) = [(['P'], 15), (['Q'], 15)] ∧
      (w.addSource (bad ++ good)).1 = .error (.malformedRule 2 ['c']) ∧
      w.requests (bad ++ good) = [(['Q'], 15)] ∧
      (w.addSource (good ++ last)).2.grammar.rules.toList =
        [{ name := ['a'], alternatives := [[.terminal ['1']]] },
         { name := ['b'], alternatives := [[.nonterminal ['x']], [.nonterminal ['y']]] }] := by
  intro w good bad last
  have ends : good.getLast? = some '\n' ∧ bad.getLast? = some '\n' := by decide
  have accepted : (w.addSource good).1 = .ok () := by decide
  have refused : (w.addSource bad).1 = .error (.malformedRule 2 ['c']) := by decide
  have added : ((w.addSource good).2.addSource last).1 = .ok () := by decide
  obtain ⟨result, -, -, requests⟩ := (w.addSource_append (.inr ends.1) bad).2 accepted
  obtain ⟨early, asked⟩ := (w.addSource_append (.inr ends.2) good).1 _ refused
  obtain ⟨-, whole, -, -⟩ := (w.addSource_append (.inr ends.1) last).2 accepted
  refine ⟨ends, ?_, ?_, ?_, ?_, ?_⟩
  · rw [result]
    decide
  · rw [requests]
    decide
  · rw [early, refused]
  · rw [asked]
    decide
  · rw [whole added]
    decide

end Workbench
end LineGrammar
