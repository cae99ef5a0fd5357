import LineGrammar.Proofs.Verdict

/-! # The modes side by side

The mode decides about the tokens that start with `r` and about no others.  So two modes read the
same tokens on the same lines and differ in the answers only: without the answers, what is read in
any mode is what is read where nothing is asked (`readLines_plain`).  From this a source is accepted
without patterns if it is with them, with the same labels; one string in the place of each pattern
leaves the alternatives as long as they are; and where no token starts with `r` the modes cannot be
told apart (`addSource_modes`). -/

namespace LineGrammar

open Step

variable {σ : Type} [Sampler σ] (settings : Settings)

namespace Reading

variable (r : Reading)

/-- The reading as it is if the sampler is not asked. -/
def unasked : Reading := { r with answer? := none }

/-- The symbol of the token if it is not taken for a pattern. -/
def bare : Symbol := .ofToken (Text.chomp r.token)

theorem symbol_of_none {r : Reading} (h : r.answer? = none) : r.symbol = r.bare := by
  unfold symbol
  rw [h]
  rfl

/-- The symbol in the place of the token is the token's own, unless that is a nonterminal whose name
starts with `r`.  There it is a terminal, the first string of the answer without an `r` at its
start. -/
def Sampled : Prop :=
  ((∀ name, r.bare ≠ .nonterminal ('r' :: name)) → r.symbol = r.bare) ∧
    ∀ name, r.bare = .nonterminal ('r' :: name) →
      ∃ first others, r.answer? = some (.ok (first :: others)) ∧
        r.symbol = .terminal (Text.stripFirst 'r' first)

end Reading

namespace ReadLine

variable (l : ReadLine)

def unasked : ReadLine := { l with readings := l.readings.map Reading.unasked }

def symbols : Alternative := l.readings.map Reading.symbol

/-- The alternative of the line if no token is taken for a pattern. -/
def bare : Alternative := l.readings.map Reading.bare

end ReadLine

/-- Only a token that starts with `r` is a nonterminal whose name does. -/
theorem exists_ofToken_eq_iff (token : Text) :
    (∃ name, Symbol.ofToken (Text.chomp token) = .nonterminal ('r' :: name)) ↔
      token.head? = some 'r' := by
  have held : (∃ name, Symbol.ofToken (Text.chomp token) = .nonterminal ('r' :: name)) ↔
      (pattern? (Text.chomp token)).isSome := by
    cases Text.chomp token with
    | nil => simp [Symbol.ofToken, pattern?]
    | cons c t =>
        by_cases hq : c = '"'
        · simp [Symbol.ofToken, pattern?, hq]
        · by_cases hr : c = 'r' <;> simp [Symbol.ofToken, pattern?, hq, hr]
  rw [held, pattern?_chomp]
  by_cases h : token.head? = some 'r' <;> simp [h]

theorem request?_eq_none_iff (mode : Mode) (samples : Nat) (token : Text) :
    request? mode samples token = none ↔ mode = .plain ∨ token.head? ≠ some 'r' := by
  unfold request?
  by_cases h : token.head? = some 'r'
  · cases mode <;> simp [h]
  · simp [h]

theorem answer?_readToken (s : σ) (token : Text) :
    (readToken settings s token).1.answer? = none ↔
      request? settings.mode settings.samples (readToken settings s token).1.token = none := by
  unfold readToken
  cases h : request? settings.mode settings.samples token <;> simp [h]

theorem readToken_plain (s s' : σ) (token : Text) :
    readToken { settings with mode := .plain } s' token =
      ((readToken settings s token).1.unasked, s') := by
  unfold readToken
  rw [request?_plain]
  cases request? settings.mode settings.samples token <;> rfl

/-- Without patterns the tokens of a line are read as in any mode, but for the answers. -/
theorem readTokens_plain (s s' : σ) (tokens : List Text) :
    readTokens { settings with mode := .plain } s' tokens =
      ((readTokens settings s tokens).1.map Reading.unasked, s') :=
  thread_eq_map (readToken_plain settings) s s' tokens

theorem readLines_plain (s s' : σ) (rules : List RuleLine) :
    readLines { settings with mode := .plain } s' rules =
      ((readLines settings s rules).1.map ReadLine.unasked, s') := by
  refine thread_eq_map (fun s s' rule => ?_) s s' rules
  unfold readLine
  rw [readTokens_plain settings s s']
  rfl

/-- The sampler has answered what it was asked for: the tokens that start with `r`, where they are
taken for patterns. -/
theorem answer?_of_mem_readLines {s : σ} {rules : List RuleLine} {l : ReadLine}
    (hl : l ∈ (readLines settings s rules).1) {r : Reading} (hr : r ∈ l.readings) :
    r.answer? = none ↔ settings.mode = .plain ∨ r.token.head? ≠ some 'r' := by
  obtain ⟨s₁, rule, -, rfl⟩ := mem_thread hl
  obtain ⟨s₂, token, -, rfl⟩ := mem_thread hr
  rw [answer?_readToken, request?_eq_none_iff]

theorem label_unasked (lines : List ReadLine) :
    (lines.map ReadLine.unasked).map ReadLine.label = lines.map ReadLine.label := by
  rw [List.map_map]
  rfl

theorem symbols_unasked (l : ReadLine) : l.unasked.symbols = l.bare := by
  unfold ReadLine.symbols ReadLine.unasked ReadLine.bare
  rw [List.map_map]
  rfl

/-- Without spacing, a line on which no token fans out adds its symbols. -/
theorem alternativesOf_eq_symbols {l : ReadLine} (hs : settings.spacing = false)
    (h : ∀ r ∈ l.readings, r.fansOut settings.mode = false) :
    alternativesOf settings l.readings = [l.symbols] := by
  have fans : l.readings.filter (Reading.fansOut settings.mode) = [] :=
    List.filter_eq_nil_iff.mpr fun r hr => by simp [h r hr]
  unfold alternativesOf ReadLine.symbols
  simp only [fans, hs, if_true, Bool.false_eq_true, if_false]

/-- The alternatives of the lines of a name, one for each line. -/
def linewise (alternative : ReadLine → Alternative) (lines : List ReadLine) (name : Text) :
    List Alternative :=
  (lines.filter fun l => l.label = name).map alternative

theorem linewise_unasked (lines : List ReadLine) :
    linewise ReadLine.symbols (lines.map ReadLine.unasked) = linewise ReadLine.bare lines := by
  funext name
  unfold linewise
  rw [List.filter_map, List.map_map]
  exact List.map_congr_left fun l _ => symbols_unasked l

/-- Lines that add one alternative each. -/
theorem addedBy_eq_linewise {alternative : ReadLine → Alternative} {lines : List ReadLine}
    (h : ∀ l ∈ lines, alternativesOf settings l.readings = [alternative l]) :
    Workbench.addedBy settings lines = linewise alternative lines := by
  funext name
  unfold Workbench.addedBy linewise
  rw [List.map_eq_flatMap]
  apply List.flatMap_congr
  intro l hl
  exact h l (List.mem_of_mem_filter hl)

/-! ### Lines without patterns -/

/-- No token of the line starts with `r`. -/
def RuleLine.Unmarked (rule : RuleLine) : Prop := ∀ token ∈ rule.tokens, token.head? ≠ some 'r'

instance : DecidablePred RuleLine.Unmarked := fun rule =>
  inferInstanceAs (Decidable (∀ token ∈ rule.tokens, token.head? ≠ some 'r'))

theorem ofToken_eq_plain (mode : Mode) (samples : Nat) {token : Text} (h : token.head? ≠ some 'r') :
    Part.ofToken mode samples token = Part.ofToken .plain samples token := by
  have silent : ∀ mode, request? mode samples token = none := fun mode =>
    (request?_eq_none_iff mode samples token).mpr (.inr h)
  rw [ofToken_eq, ofToken_eq, silent, silent]

theorem ofTokens_eq_plain (mode : Mode) (samples : Nat) {tokens : List Text}
    (h : ∀ token ∈ tokens, token.head? ≠ some 'r') :
    Part.ofTokens mode samples tokens = Part.ofTokens .plain samples tokens := by
  induction tokens with
  | nil => rfl
  | cons token tokens ih =>
      obtain ⟨first, rest⟩ := List.forall_mem_cons.mp h
      rw [Part.ofTokens, Part.ofTokens, ofToken_eq_plain mode samples first, ih rest]

theorem compileLine_eq_plain (n : Nat) {line : Text}
    (h : ∀ rule, RuleLine.parse? line = some rule → rule.Unmarked) :
    compileLine settings n line = compileLine { settings with mode := .plain } n line := by
  cases hr : RuleLine.parse? line with
  | none => rw [compileLine_of_none _ n hr, compileLine_of_none _ n hr]
  | some rule =>
      rw [compileLine_of_some _ n hr, compileLine_of_some _ n hr,
        ofTokens_eq_plain settings.mode settings.samples (h rule hr)]

theorem compileLines_eq_plain (n : Nat) {lines : List Text}
    (h : ∀ rule ∈ lines.filterMap RuleLine.parse?, rule.Unmarked) (g : Grammar) :
    compileLines settings n lines g =
      compileLines { settings with mode := .plain } n lines g := by
  refine compileLines_congr (List.forall₂_same.mpr fun line hl n => ?_) n g
  apply compileLine_eq_plain
  intro rule hr
  exact h rule (List.mem_filterMap.mpr ⟨line, hl, hr⟩)

/-! ### Sources -/

namespace Workbench

variable (w : Workbench σ) (source : Text)

/-- The workbench in a mode, without spacing. -/
def inMode (mode : Mode) : Workbench σ :=
  { w with settings := { w.settings with mode, spacing := false } }

theorem readSource_plain (mode : Mode) :
    ((w.inMode .plain).readSource source).1 =
      ((w.inMode mode).readSource source).1.map ReadLine.unasked :=
  congrArg Prod.fst (readLines_plain (w.inMode mode).settings w.sampler w.sampler _)

/-- Where no token fans out, every line adds its symbols. -/
theorem rules_linewise {mode : Mode} (hm : mode ≠ .multi) (h : (w.inMode mode).Accepts source) :
    ((w.inMode mode).addSource source).2.grammar.rules.toList =
      w.grammar.rulesWith (((w.inMode mode).readSource source).1.map ReadLine.label)
        (linewise ReadLine.symbols ((w.inMode mode).readSource source).1) := by
  have each : ∀ l ∈ ((w.inMode mode).readSource source).1,
      alternativesOf (w.inMode mode).settings l.readings = [l.symbols] := by
    intro l _
    apply alternativesOf_eq_symbols _ rfl
    intro r _
    simp [Reading.fansOut, inMode, hm]
  rw [rules_addSource _ _ h, addedBy_eq_linewise _ each]
  rfl

theorem accepts_plain {mode : Mode} (h : (w.inMode mode).Accepts source) :
    (w.inMode .plain).Accepts source := by
  refine ⟨h.1, fun l hl r hr => ?_⟩
  have unanswered : r.answer? = none := (answer?_of_mem_readLines _ hl hr).mpr (.inl rfl)
  unfold Reading.Fulfilled
  rw [unanswered]
  trivial

/-- A source that is accepted in some mode is accepted without patterns, and every line then adds
the alternative that it has if no token is taken for a pattern. -/
theorem rules_plain {mode : Mode} (h : (w.inMode mode).Accepts source) :
    ((w.inMode .plain).addSource source).1 = .ok () ∧
      ((w.inMode .plain).addSource source).2.grammar.rules.toList =
        w.grammar.rulesWith (((w.inMode mode).readSource source).1.map ReadLine.label)
          (linewise ReadLine.bare ((w.inMode mode).readSource source).1) := by
  have accepts := w.accepts_plain source h
  refine ⟨by rw [addSource_of_accepts _ _ accepts], ?_⟩
  rw [w.rules_linewise source (by decide) accepts, w.readSource_plain source mode, label_unasked,
    linewise_unasked]

/-- Without patterns on it, a line adds the same one alternative in every mode. -/
theorem alternativesOf_unmarked {mode : Mode} {l : ReadLine}
    (hl : l ∈ ((w.inMode mode).readSource source).1)
    (unmarked : ∀ r ∈ l.readings, r.token.head? ≠ some 'r') :
    alternativesOf (w.inMode mode).settings l.readings = [l.bare] := by
  have unanswered : ∀ r ∈ l.readings, r.answer? = none := fun r hr =>
    (answer?_of_mem_readLines _ hl hr).mpr (.inr (unmarked r hr))
  have symbols : l.symbols = l.bare :=
    List.map_congr_left fun r hr => Reading.symbol_of_none (unanswered r hr)
  rw [← symbols]
  apply alternativesOf_eq_symbols _ rfl
  intro r hr
  simp [Reading.fansOut, unanswered r hr]

/-- One string takes the place of each token that starts with `r`, and of no other. -/
theorem sampled_of_accepts (h : (w.inMode .single).Accepts source) {l : ReadLine}
    (hl : l ∈ ((w.inMode .single).readSource source).1) {r : Reading} (hr : r ∈ l.readings) :
    r.Sampled := by
  have fulfilled : r.Fulfilled .single := h.2 l hl r hr
  have answered : r.answer? = none ↔ Mode.single = .plain ∨ r.token.head? ≠ some 'r' :=
    answer?_of_mem_readLines _ hl hr
  have marked : (∃ name, r.bare = .nonterminal ('r' :: name)) ↔ r.token.head? = some 'r' :=
    exists_ofToken_eq_iff r.token
  constructor
  · intro other
    have unmarked : r.token.head? ≠ some 'r' := fun hm => by
      obtain ⟨name, hn⟩ := marked.mpr hm
      exact other name hn
    exact Reading.symbol_of_none (answered.mpr (.inr unmarked))
  · intro name hn
    have hm := marked.mp ⟨name, hn⟩
    unfold Reading.Fulfilled at fulfilled
    rcases ha : r.answer? with _ | error | strings
    · rcases answered.mp ha with plain | unmarked
      · cases plain
      · exact absurd hm unmarked
    · rw [ha] at fulfilled
      exact fulfilled.elim
    · rw [ha] at fulfilled
      obtain ⟨first, others, rfl⟩ := List.exists_cons_of_ne_nil (fulfilled rfl)
      refine ⟨first, others, rfl, ?_⟩
      unfold Reading.symbol Reading.strings
      rw [ha]
      rfl

theorem requests_plain : (w.inMode .plain).requests source = [] := by
  obtain ⟨result, requests, verdict⟩ :=
    exists_verdict (w.inMode .plain).settings 1 w.sampler (Text.lines source)
  have asked := (verdict.sound _ w.grammar).2
  rw [verdict.requests_plain _ rfl] at asked
  rw [requests_eq]
  exact asked

/-- Where no token starts with `r`, a source does in every mode what it does without patterns. -/
theorem addSource_eq_plain (mode : Mode)
    (h : ∀ rule ∈ (Text.lines source).filterMap RuleLine.parse?, rule.Unmarked) :
    ((w.inMode mode).addSource source).1 = ((w.inMode .plain).addSource source).1 ∧
      ((w.inMode mode).addSource source).2.grammar =
        ((w.inMode .plain).addSource source).2.grammar ∧
      (w.inMode mode).requests source = [] := by
  have same : compile (w.inMode mode).settings source w.grammar =
      compile (w.inMode .plain).settings source w.grammar :=
    compileLines_eq_plain (w.inMode mode).settings 1 h w.grammar
  have outcomes : outcome (compile (w.inMode mode).settings source (w.inMode mode).grammar)
      (w.inMode mode).sampler =
        outcome (compile (w.inMode .plain).settings source (w.inMode .plain).grammar)
          (w.inMode .plain).sampler := congrArg (outcome · w.sampler) same
  have results : ((w.inMode mode).addSource source).1 = ((w.inMode .plain).addSource source).1 ∧
      ((w.inMode mode).addSource source).2.grammar =
        ((w.inMode .plain).addSource source).2.grammar := by
    rw [addSource_eq, addSource_eq, outcomes]
    rcases outcome (compile (w.inMode .plain).settings source (w.inMode .plain).grammar)
      (w.inMode .plain).sampler with ⟨_ | _, _⟩ <;> exact ⟨rfl, rfl⟩
  refine ⟨results.1, results.2, ?_⟩
  have silent := w.requests_plain source
  rw [requests_eq] at silent ⊢
  exact (congrArg (Step.requests · w.sampler) same).trans silent

/-- **The modes agree where there is no pattern.**  Without spacing:

A source that is accepted with one string for each pattern is accepted without patterns.  It has the
same labels in the same order, and each line adds one alternative, with a symbol for each token: the
token's own, save that the first string of the answer takes the place of a token that starts with
`r`.

A source that is accepted with several strings for each pattern is accepted without patterns, with
the same labels in the same order, and a line on which no token starts with `r` adds the same one
alternative.

A source that is not accepted without patterns is not accepted with them.

If no token starts with `r`, the result and the grammar are the same in all modes and the sampler is
not asked. -/
theorem addSource_modes :
    (((w.inMode .single).addSource source).1 = .ok () →
      let lines := ((w.inMode .single).readSource source).1
      ((w.inMode .plain).addSource source).1 = .ok () ∧
        ((w.inMode .plain).addSource source).2.grammar.rules.toList =
          w.grammar.rulesWith (lines.map ReadLine.label) (linewise ReadLine.bare lines) ∧
        ((w.inMode .single).addSource source).2.grammar.rules.toList =
          w.grammar.rulesWith (lines.map ReadLine.label) (linewise ReadLine.symbols lines) ∧
        ∀ l ∈ lines, ∀ r ∈ l.readings, r.Sampled) ∧
      (((w.inMode .multi).addSource source).1 = .ok () →
        let lines := ((w.inMode .multi).readSource source).1
        let settings := (w.inMode .multi).settings
        ((w.inMode .plain).addSource source).1 = .ok () ∧
          ((w.inMode .plain).addSource source).2.grammar.rules.toList =
            w.grammar.rulesWith (lines.map ReadLine.label) (linewise ReadLine.bare lines) ∧
          ((w.inMode .multi).addSource source).2.grammar.rules.toList =
            w.grammar.rulesWith (lines.map ReadLine.label) (addedBy settings lines) ∧
          ∀ l ∈ lines, (∀ r ∈ l.readings, r.token.head? ≠ some 'r') →
            alternativesOf settings l.readings = [l.bare]) ∧
      (((w.inMode .plain).addSource source).1 ≠ .ok () →
        ((w.inMode .single).addSource source).1 ≠ .ok () ∧
          ((w.inMode .multi).addSource source).1 ≠ .ok ()) ∧
      ((∀ rule ∈ (Text.lines source).filterMap RuleLine.parse?, rule.Unmarked) →
        ∀ mode, ((w.inMode mode).addSource source).1 = ((w.inMode .plain).addSource source).1 ∧
          ((w.inMode mode).addSource source).2.grammar =
            ((w.inMode .plain).addSource source).2.grammar ∧
          ((w.inMode mode).addSource source).2.sampler = w.sampler ∧
          (w.inMode mode).requests source = []) := by
  refine ⟨fun h => ?single, fun h => ?multi, fun h => ?refused, fun h mode => ?unmarked⟩
  case single =>
    have accepts := accepts_of_addSource _ source h
    obtain ⟨plain, rules⟩ := w.rules_plain source accepts
    exact ⟨plain, rules, w.rules_linewise source (by decide) accepts,
      fun l hl r hr => w.sampled_of_accepts source accepts hl hr⟩
  case multi =>
    have accepts := accepts_of_addSource _ source h
    obtain ⟨plain, rules⟩ := w.rules_plain source accepts
    exact ⟨plain, rules, rules_addSource _ _ accepts,
      fun l hl unmarked => w.alternativesOf_unmarked source hl unmarked⟩
  case refused =>
    exact ⟨fun hs => h (w.rules_plain source (accepts_of_addSource _ source hs)).1,
      fun hm => h (w.rules_plain source (accepts_of_addSource _ source hm)).1⟩
  case unmarked =>
    obtain ⟨result, grammar, silent⟩ := w.addSource_eq_plain source mode h
    exact ⟨result, grammar, sampler_of_requests_nil _ source silent, silent⟩

/-- A pattern after two other tokens, one that ends with its line, and a line with an empty token
and no pattern; a line that is no rule after a pattern, and one after tokens that hold none. -/
theorem addSource_modes_mixed :
    let w : Workbench Prepared :=
      { grammar := Grammar.empty.extend ['b'] [[.nonterminal ['x']]]
        sampler := ⟨[.ok ["r1".toList, "2r".toList], .ok ["rr".toList]]⟩ }
    let source := "a: \"u\" x rP\nb: r\r\na: y  z".toList
    let unruly := "a: rP\nb\n".toList
    let quiet := "a: \"r\" x\n\nb: y".toList
    ((w.inMode .plain).addSource source).1 = .ok () ∧
      ((w.inMode .plain).addSource source).2.grammar.rules.toList =
        [{ name := ['b'], alternatives := [[.nonterminal ['x']], [.nonterminal ['r']]] },
         { name := ['a']
           alternatives :=
            [[.terminal ['u'], .nonterminal ['x'], .nonterminal ['r', 'P']],
             [.nonterminal ['y'], .terminal [], .nonterminal ['z']]] }] ∧
      ((w.inMode .single).addSource source).2.grammar.rules.toList =
        [{ name := ['b'], alternatives := [[.nonterminal ['x']], [.terminal ['r']]] },
         { name := ['a']
           alternatives :=
            [[.terminal ['u'], .nonterminal ['x'], .terminal ['1']],
             [.nonterminal ['y'], .terminal [], .nonterminal ['z']]] }] ∧
      ((w.inMode .multi).addSource source).2.grammar.rules.toList =
        [{ name := ['b'], alternatives := [[.nonterminal ['x']], [.terminal ['r']]] },
         { name := ['a']
           alternatives :=
            [[.terminal ['r', '1']], [.terminal ['2']],
             [.nonterminal ['y'], .terminal [], .nonterminal ['z']]] }] ∧
      (((w.inMode .single).addSource unruly).1 ≠ .ok () ∧
        ((w.inMode .multi).addSource unruly).1 ≠ .ok ()) ∧
      ∀ mode, ((w.inMode mode).addSource quiet).1 = .error (.malformedRule 2 []) ∧
        (w.inMode mode).requests quiet = [] := by
  intro w source unruly quiet
  obtain ⟨single, multi, -, -⟩ := w.addSource_modes source
  obtain ⟨plain, plainRules, singleRules, -⟩ := single (by decide)
  obtain ⟨-, -, multiRules, -⟩ := multi (by decide)
  obtain ⟨-, -, refused, -⟩ := w.addSource_modes unruly
  obtain ⟨-, -, -, silent⟩ := w.addSource_modes quiet
  refine ⟨plain, ?_, ?_, ?_, refused (by decide), fun mode => ?_⟩
  · rw [plainRules]
    decide
  · rw [singleRules]
    decide
  · rw [multiRules]
    decide
  · obtain ⟨result, -, -, asked⟩ := silent (by decide) mode
    rw [result]
    exact ⟨by decide, asked⟩

end Workbench
end LineGrammar
