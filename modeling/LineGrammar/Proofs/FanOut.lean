import LineGrammar.Proofs.Compilation
import Mathlib.Algebra.Ring.Nat

/-! # Lines that fan out

Where several strings take the place of a pattern, a line with a pattern on it asks for strings for
its patterns from left to right and adds one alternative for each string.  Nothing else on the line
has a part in that (`compileLine_eq_sample`); so two lines of one label with the same patterns
cannot be told apart by what they add (`compileLine_fanOut`).

A string becomes a terminal without an `r` at its end and then without the quotes at both ends
(`exists_cleanFanOut`). -/

namespace LineGrammar

open Step

variable {σ : Type} [Sampler σ] (settings : Settings)

/-! ### Patterns of a line -/

/-- The pattern that a token holds if its line ending does not count. -/
def tokenPattern? (token : Text) : Option Text := pattern? (Text.chomp token)

namespace RuleLine

variable (rule : RuleLine)

/-- The tokens that start with `r`, without their line endings. -/
def marked : List Text := (rule.tokens.filter fun token => token.head? = some 'r').map Text.chomp

def patterns : List Text := rule.tokens.filterMap tokenPattern?

theorem patterns_eq : rule.patterns = rule.marked.map List.tail := by
  have each : ∀ token : Text, tokenPattern? token =
      if token.head? = some 'r' then some (Text.chomp token).tail else none := pattern?_chomp
  unfold patterns marked
  induction rule.tokens with
  | nil => rfl
  | cons token tokens ih =>
      rw [List.filterMap_cons, each, List.filter_cons, ih]
      by_cases h : token.head? = some 'r' <;> simp [h]

end RuleLine

theorem RuleLine.patterns_ne_nil {rule : RuleLine}
    (h : ∃ token ∈ rule.tokens, token.head? = some 'r') : rule.patterns ≠ [] := by
  obtain ⟨token, ht, head⟩ := h
  have held : tokenPattern? token = some (Text.chomp token).tail := by
    unfold tokenPattern?
    rw [pattern?_chomp, if_pos head]
  exact List.ne_nil_of_mem (List.mem_filterMap.mpr ⟨token, ht, held⟩)

/-- Asks for strings for patterns, one after another. -/
def sampleAll (count : Nat) : List Text → Step (List (List Text))
  | [] => return []
  | pattern :: patterns => do
    let strings ← Step.sample pattern count
    let others ← sampleAll count patterns
    return strings :: others

theorem ofToken_multi_of_some (samples : Nat) {token pattern : Text}
    (h : tokenPattern? token = some pattern) :
    Part.ofToken .multi samples token = Part.ofPatternFan samples pattern := by
  unfold tokenPattern? at h
  unfold Part.ofToken
  simp only [h]

theorem ofToken_multi_of_none (samples : Nat) {token : Text}
    (h : tokenPattern? token = none) :
    Part.ofToken .multi samples token = pure (.symbol (.ofToken (Text.chomp token))) := by
  unfold tokenPattern? at h
  unfold Part.ofToken
  simp only [h]

/-- The fan-outs among the parts of tokens are the answers to their patterns. -/
theorem fanOuts_ofTokens (samples : Nat) (tokens : List Text) :
    List.filterMap Part.fanOut? <$> Part.ofTokens .multi samples tokens =
      List.map (List.map cleanFanOut) <$>
        sampleAll (max samples 1) (tokens.filterMap tokenPattern?) := by
  induction tokens with
  | nil => rfl
  | cons token tokens ih =>
      unfold Part.ofTokens
      cases h : tokenPattern? token with
      | none =>
          rw [ofToken_multi_of_none samples h, List.filterMap_cons_none h, ← ih, pure_bind,
            map_bind]
          simp only [map_pure]
          exact (map_eq_pure_bind _ _).symm
      | some pattern =>
          rw [ofToken_multi_of_some samples h, List.filterMap_cons_some h]
          unfold Part.ofPatternFan sampleAll
          simp only [bind_assoc, pure_bind, map_bind, map_pure]
          congr 1
          funext strings
          -- The later fan-outs are those of the other tokens, behind the one of this token.
          have later := congrArg (fun x => List.cons (strings.map cleanFanOut) <$> x) ih
          simp only [Functor.map_map] at later
          rw [map_eq_pure_bind, map_eq_pure_bind] at later
          exact later

theorem ofParts_of_fanOut (spacing : Bool) {parts : List Part}
    (h : parts.filterMap Part.fanOut? ≠ []) :
    Alternative.ofParts spacing parts =
      (parts.filterMap Part.fanOut?).flatten.map fun s => [.terminal s] := by
  unfold Alternative.ofParts
  cases hf : parts.filterMap Part.fanOut? with
  | nil => exact absurd hf h
  | cons fan fans => rfl

/-- On a line with a pattern, the parts that do not fan out are dropped. -/
theorem ofParts_ofTokens (spacing : Bool) (samples : Nat) {tokens : List Text}
    (h : tokens.filterMap tokenPattern? ≠ []) (before : List Part) :
    (fun parts => Alternative.ofParts spacing (before ++ parts)) <$>
        Part.ofTokens .multi samples tokens =
      (fun parts =>
          ((before ++ parts).filterMap Part.fanOut?).flatten.map fun s => [.terminal s]) <$>
        Part.ofTokens .multi samples tokens := by
  induction tokens generalizing before with
  | nil => exact absurd rfl h
  | cons token tokens ih =>
      unfold Part.ofTokens
      cases hp : tokenPattern? token with
      | none =>
          rw [List.filterMap_cons_none hp] at h
          -- The symbol of this token joins the parts before the first fan-out.
          have rest := ih h (before ++ [.symbol (.ofToken (Text.chomp token))])
          simp only [List.append_assoc, List.singleton_append] at rest
          rw [ofToken_multi_of_none samples hp]
          simp only [pure_bind, map_bind, map_pure]
          simpa only [map_eq_pure_bind] using rest
      | some pattern =>
          rw [ofToken_multi_of_some samples hp]
          unfold Part.ofPatternFan
          simp only [bind_assoc, pure_bind, map_bind, map_pure]
          congr 1
          funext strings
          congr 1
          funext parts
          rw [ofParts_of_fanOut]
          simp [Part.fanOut?]

/-- A line with a pattern asks for strings for its patterns and adds an alternative for each. -/
theorem compileLine_eq_sample (multi : settings.mode = .multi) (n : Nat) {line : Text}
    {rule : RuleLine} (hr : RuleLine.parse? line = some rule) (some : rule.patterns ≠ []) :
    compileLine settings n line =
      (fun answers => (rule.label, answers.flatten.map fun s => [.terminal (cleanFanOut s)])) <$>
        sampleAll (max settings.samples 1) rule.patterns := by
  have alternatives :
      Alternative.ofParts settings.spacing <$>
          Part.ofTokens .multi settings.samples rule.tokens =
        (fun answers => answers.flatten.map fun s => [.terminal (cleanFanOut s)]) <$>
          sampleAll (max settings.samples 1) rule.patterns := by
    calc Alternative.ofParts settings.spacing <$>
          Part.ofTokens .multi settings.samples rule.tokens
      _ = (fun parts => (parts.filterMap Part.fanOut?).flatten.map fun s => [.terminal s]) <$>
            Part.ofTokens .multi settings.samples rule.tokens :=
          ofParts_ofTokens settings.spacing settings.samples some []
      _ = (fun fans => fans.flatten.map fun s => [.terminal s]) <$>
            List.filterMap Part.fanOut? <$> Part.ofTokens .multi settings.samples rule.tokens := by
          rw [Functor.map_map]
      _ = _ := by
          rw [fanOuts_ofTokens, Functor.map_map]
          congr 1
          funext answers
          rw [← List.map_flatten, List.map_map]
          rfl
  rw [compileLine_of_some settings n hr, multi]
  calc _ = Prod.mk rule.label <$> Alternative.ofParts settings.spacing <$>
            Part.ofTokens .multi settings.samples rule.tokens := by rw [Functor.map_map]
    _ = _ := by rw [alternatives, Functor.map_map]

/-! ### What becomes of a string -/

namespace Text

theorem dropWhile_append_takeWhile (p : Char → Bool) (t : Text) :
    ∃ before, t = before ++ t.dropWhile p ∧ ∀ c ∈ before, p c = true :=
  ⟨t.takeWhile p, List.takeWhile_append_dropWhile.symm, List.all_eq_true.mp List.all_takeWhile⟩

theorem exists_dropEndWhile_append (p : Char → Bool) (t : Text) :
    ∃ after, t = dropEndWhile p t ++ after ∧ ∀ c ∈ after, p c = true := by
  obtain ⟨before, cut, removed⟩ := dropWhile_append_takeWhile p t.reverse
  refine ⟨before.reverse, ?_, fun c hc => removed c (List.mem_reverse.mp hc)⟩
  unfold dropEndWhile
  rw [← List.reverse_append, ← cut, List.reverse_reverse]

/-- A text is what is left of it after trimming, between what has been removed. -/
theorem exists_trimWhile (p : Char → Bool) (t : Text) :
    ∃ before after, t = before ++ trimWhile p t ++ after ∧ (∀ c ∈ before, p c = true) ∧
      ∀ c ∈ after, p c = true := by
  obtain ⟨before, first, removed⟩ := dropWhile_append_takeWhile p t
  obtain ⟨after, last, removed'⟩ := exists_dropEndWhile_append p (t.dropWhile p)
  refine ⟨before, after, ?_, removed, removed'⟩
  unfold trimWhile
  rw [List.append_assoc, ← last, ← first]

theorem stripLast_cases (c : Char) (t : Text) :
    t = stripLast c t ++ [c] ∨ stripLast c t = t ∧ t.getLast? ≠ some c := by
  rcases List.eq_nil_or_concat t with rfl | ⟨u, d, rfl⟩
  · exact .inr ⟨rfl, by simp⟩
  · by_cases hd : d = c
    · rw [hd, List.concat_eq_append, stripLast_concat]
      exact .inl rfl
    · refine .inr ⟨?_, by simpa using hd⟩
      unfold stripLast
      rw [List.concat_eq_append, List.reverse_append, List.reverse_singleton, List.singleton_append,
        stripFirst, if_neg hd, ← List.singleton_append, List.reverse_append, List.reverse_reverse,
        List.reverse_singleton]

end Text

/-- A string loses one `r` at its end, if it has one, and then all quotes at both ends, and nothing
else. -/
theorem exists_cleanFanOut (s : Text) :
    ∃ core before after, (s = core ++ ['r'] ∨ s = core ∧ s.getLast? ≠ some 'r') ∧
      core = before ++ cleanFanOut s ++ after ∧ ∀ c ∈ before ++ after, c = '"' := by
  obtain ⟨before, after, cut, first, last⟩ :=
    Text.exists_trimWhile (· == '"') (Text.stripLast 'r' s)
  refine ⟨Text.stripLast 'r' s, before, after, ?_, cut, fun c hc => ?_⟩
  · exact (Text.stripLast_cases 'r' s).imp id (And.imp_left Eq.symm)
  · rcases List.mem_append.mp hc with h | h
    · exact eq_of_beq (first c h)
    · exact eq_of_beq (last c h)

theorem head?_cleanFanOut (s : Text) : (cleanFanOut s).head? ≠ some '"' := fun h =>
  absurd (Text.head?_trimWhile h) (by decide)

theorem getLast?_cleanFanOut (s : Text) : (cleanFanOut s).getLast? ≠ some '"' := fun h =>
  absurd (Text.getLast?_dropEndWhile h) (by decide)

/-- A string without an `r` at its end and without quotes at its ends stays as it is. -/
theorem cleanFanOut_eq_self {s : Text} (marker : s.getLast? ≠ some 'r')
    (first : s.head? ≠ some '"') (last : s.getLast? ≠ some '"') : cleanFanOut s = s := by
  have kept : Text.stripLast 'r' s = s := by
    rcases Text.stripLast_cases 'r' s with h | ⟨h, -⟩
    · exact absurd (by rw [h]; simp) marker
    · exact h
  unfold cleanFanOut
  rw [kept, Text.trimWhile_eq_self_iff]
  constructor
  · rintro c hc
    exact beq_false_of_ne fun h => first (h ▸ hc)
  · rintro c hc
    exact beq_false_of_ne fun h => last (h ▸ hc)

section Line

variable {settings} (multi : settings.mode = .multi) (n : Nat) {line : Text} {rule : RuleLine}
  (hr : RuleLine.parse? line = some rule) (some : rule.patterns ≠ []) (s : σ)

include multi hr some

/-- What a line with a pattern adds, told by the answers of the sampler. -/
theorem yields_compileLine_fanOut (added : Text × List Alternative) (s' : σ) :
    Yields (compileLine settings n line) s added s' ↔
      ∃ answers, Yields (sampleAll (max settings.samples 1) rule.patterns) s answers s' ∧
        added.1 = rule.label ∧
        added.2 = answers.flatten.map (fun string => [.terminal (cleanFanOut string)]) ∧
        added.2.length = (answers.map List.length).sum := by
  rw [compileLine_eq_sample settings multi n hr some, yields_map]
  refine exists_congr fun answers => and_congr_right fun _ => ?_
  constructor
  · rintro rfl
    exact ⟨rfl, rfl, (List.length_map _).trans List.length_flatten⟩
  · rintro ⟨label, alternatives, -⟩
    exact Prod.ext label alternatives

/-- A line with a pattern fails where one of its requests does. -/
theorem outcome_compileLine_fanOut_eq_error (e : ConversionError) (s' : σ) :
    outcome (compileLine settings n line) s = (.error e, s') ↔
      outcome (sampleAll (max settings.samples 1) rule.patterns) s = (.error e, s') := by
  rw [compileLine_eq_sample settings multi n hr some, outcome_map]
  rcases outcome (sampleAll (max settings.samples 1) rule.patterns) s with ⟨_ | _, _⟩ <;>
    simp [Except.map]

omit [Sampler σ] in
/-- Spacing, the number of the line and whatever is no pattern do not matter. -/
theorem compileLine_fanOut_congr (spacing : Bool) (n' : Nat) {line' : Text} {rule' : RuleLine}
    (hr' : RuleLine.parse? line' = Option.some rule') (label : rule'.label = rule.label)
    (patterns : rule'.patterns = rule.patterns) :
    compileLine { settings with spacing } n' line' = compileLine settings n line := by
  have some' : rule'.patterns ≠ [] := patterns ▸ some
  rw [compileLine_eq_sample settings multi n hr some,
    compileLine_eq_sample { settings with spacing } multi n' hr' some', label, patterns]

end Line

/-- **A line that fans out depends on its patterns only.**  With several strings for each pattern, a
line with a pattern on it asks for strings for its patterns from left to right, and adds one
alternative of one terminal for each string that is answered.

Another line of the same label whose tokens that start with `r` are the same but for their line
endings has the same outcome with every sampler and makes the same requests, with spacing or
without; and in any source either line may stand for the other.

The terminal of a string is the string without one `r` at its end, if there is one, and then without
all quotes at its ends.  It has no quote at either end, and it is the string itself if that does not
end in `r` and has no quote at either end. -/
theorem compileLine_fanOut {settings : Settings} (multi : settings.mode = .multi) (n : Nat)
    {line : Text} {rule : RuleLine} (hr : RuleLine.parse? line = some rule)
    (marked : ∃ token ∈ rule.tokens, token.head? = some 'r') (s : σ) :
    let asked := sampleAll (max settings.samples 1) rule.patterns
    rule.patterns = rule.marked.map List.tail ∧
    (∀ added s', Yields (compileLine settings n line) s added s' ↔
      ∃ answers, Yields asked s answers s' ∧ added.1 = rule.label ∧
        added.2 = answers.flatten.map (fun string => [.terminal (cleanFanOut string)]) ∧
        added.2.length = (answers.map List.length).sum) ∧
    (∀ e s', outcome (compileLine settings n line) s = (.error e, s') ↔
      outcome asked s = (.error e, s')) ∧
    Step.requests (compileLine settings n line) s = Step.requests asked s ∧
    (∀ spacing n' line' rule', RuleLine.parse? line' = some rule' → rule'.label = rule.label →
      rule'.marked = rule.marked →
        outcome (compileLine { settings with spacing } n' line') s =
            outcome (compileLine settings n line) s ∧
          Step.requests (compileLine { settings with spacing } n' line') s =
            Step.requests (compileLine settings n line) s ∧
          ∀ k earlier later g, compileLines settings k (earlier ++ line' :: later) g =
            compileLines settings k (earlier ++ line :: later) g) ∧
    ∀ string, (∃ core before after,
        (string = core ++ ['r'] ∨ string = core ∧ string.getLast? ≠ some 'r') ∧
        core = before ++ cleanFanOut string ++ after ∧ ∀ c ∈ before ++ after, c = '"') ∧
      (cleanFanOut string).head? ≠ some '"' ∧ (cleanFanOut string).getLast? ≠ some '"' ∧
      (string.getLast? ≠ some 'r' → string.head? ≠ some '"' → string.getLast? ≠ some '"' →
        cleanFanOut string = string) := by
  intro asked
  have some : rule.patterns ≠ [] := RuleLine.patterns_ne_nil marked
  refine ⟨rule.patterns_eq, fun added s' => yields_compileLine_fanOut multi n hr some s added s',
    fun e s' => outcome_compileLine_fanOut_eq_error multi n hr some s e s', ?requests,
    fun spacing n' line' rule' hr' label same => ?other, fun string => ?terminal⟩
  case requests =>
    rw [compileLine_eq_sample settings multi n hr some, requests_map]
  case other =>
    have patterns : rule'.patterns = rule.patterns := by
      rw [rule'.patterns_eq, rule.patterns_eq, same]
    have whole := compileLine_fanOut_congr multi n hr some spacing n' hr' label patterns
    refine ⟨by rw [whole], by rw [whole], fun k earlier later g => ?_⟩
    have first : ∀ n, compileLine settings n line' = compileLine settings n line := fun n =>
      compileLine_fanOut_congr multi n hr some settings.spacing n hr' label patterns
    have all : List.Forall₂ (fun line line' =>
        ∀ n, compileLine settings n line = compileLine settings n line')
        (earlier ++ line' :: later) (earlier ++ line :: later) :=
      List.rel_append (List.forall₂_same.mpr fun _ _ _ => rfl)
        (.cons first (List.forall₂_same.mpr fun _ _ _ => rfl))
    exact compileLines_congr all k g
  case terminal =>
    exact ⟨exists_cleanFanOut string, head?_cleanFanOut string, getLast?_cleanFanOut string,
      cleanFanOut_eq_self⟩

/-- Two patterns between other tokens, with an answer of two strings and one without strings, on a
line that ends otherwise than the one that has the patterns alone. -/
theorem compileLine_fanOut_mixed :
    let settings : Settings := { mode := .multi, spacing := true, samples := 0 }
    let sampler : Prepared := ⟨[.ok ["\"1r\"r".toList, "2".toList], .ok []]⟩
    let line := "a: \"u\" rP  x rQ\r\n".toList
    let other := "a : rP rQ".toList
    let rule : RuleLine := ⟨['a'], ["\"u\"".toList, "rP".toList, [], ['x'], "rQ\r\n".toList]⟩
    RuleLine.parse? line = some rule ∧ (∃ token ∈ rule.tokens, token.head? = some 'r') ∧
      rule.patterns = [['P'], ['Q']] ∧
      Yields (compileLine settings 1 line) sampler
        (['a'], [[.terminal ['1', 'r']], [.terminal ['2']]]) ⟨[]⟩ ∧
      outcome (compileLine settings 7 other) sampler =
        outcome (compileLine settings 1 line) sampler := by
  intro settings sampler line other rule
  have read : RuleLine.parse? line = some rule := by decide
  have marked : ∃ token ∈ rule.tokens, token.head? = some 'r' := by decide
  have multi : settings.mode = .multi := rfl
  obtain ⟨patterns, added, -, -, same, -⟩ := compileLine_fanOut multi 1 read marked sampler
  have held : rule.patterns = [['P'], ['Q']] := patterns.trans (by decide)
  refine ⟨read, marked, held,
    (added _ _).mpr ⟨[["\"1r\"r".toList, "2".toList], []], ?_, rfl, ?_, ?_⟩, ?_⟩
  · rw [held]
    rfl
  · decide
  · decide
  · exact (same true 7 other ⟨['a'], ["rP".toList, "rQ".toList]⟩ (by decide) rfl (by decide)).1

end LineGrammar
