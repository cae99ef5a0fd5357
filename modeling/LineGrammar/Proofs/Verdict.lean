import LineGrammar.Proofs.Splitting

/-! # How a source ends

A source is walked line by line, each line token by token, and the walk ends at the first failure.
What it comes to, and what the sampler is asked on the way, is told by `Verdict` without a walk: all
lines are accepted; or those before some line are, and that line is no rule; or the tokens before
some token are, and the sampler does not give what that token asks for.  A line that is no rule is
found before any of its tokens is looked at, and no token after a failure is asked for.

Every source has exactly one verdict, and adding it ends like that (`addSource_verdict`). -/

namespace LineGrammar

open Step

variable {σ : Type} [Sampler σ] (settings : Settings)

/-! ### Answers that are not enough -/

namespace Reading

/-- What is wrong with the answer to a token, if anything is: it is an error, or there is no string
in it to take the place of the token. -/
def fault? (mode : Mode) (r : Reading) : Option PatternError :=
  match r.answer? with
  | some (.error e) => some e
  | some (.ok []) =>
    if mode = .single then
      some { pattern := (Text.chomp r.token).tail, reason := "sampler returned no strings".toList }
    else none
  | _ => none

theorem fulfilled_iff (mode : Mode) (r : Reading) : r.Fulfilled mode ↔ r.fault? mode = none := by
  obtain ⟨token, answer⟩ := r
  rcases answer with _ | _ | _ | ⟨string, strings⟩
  · simp [Fulfilled, fault?]
  · simp [Fulfilled, fault?]
  · simp only [Fulfilled, fault?]
    by_cases h : mode = .single <;> simp [h]
  · simp [Fulfilled, fault?]

end Reading

theorem outcome_ofPattern (pattern : Text) (s : σ) :
    outcome (Part.ofPattern pattern) s =
      (match (Sampler.sample s pattern 1).1 with
        | .error e => .error (.pattern e)
        | .ok [] => .error (.pattern { pattern, reason := "sampler returned no strings".toList })
        | .ok (string :: _) => .ok (.symbol (.terminal (Text.stripFirst 'r' string))),
      (Sampler.sample s pattern 1).2) := by
  unfold Part.ofPattern
  rw [outcome_bind, outcome_sample]
  rcases Sampler.sample s pattern 1 with ⟨_ | _ | _, _⟩ <;> rfl

theorem outcome_ofPatternFan (samples : Nat) (pattern : Text) (s : σ) :
    outcome (Part.ofPatternFan samples pattern) s =
      ((Sampler.sample s pattern (max samples 1)).1.map (fun strings =>
          .fanOut (strings.map cleanFanOut)) |>.mapError .pattern,
      (Sampler.sample s pattern (max samples 1)).2) := by
  unfold Part.ofPatternFan
  rw [outcome_bind, outcome_sample]
  rcases Sampler.sample s pattern (max samples 1) with ⟨_ | _, _⟩ <;> rfl

/-- A token whose answer is not enough fails with what is wrong with the answer. -/
theorem outcome_ofToken_of_fault {s : σ} {token : Text} {e : PatternError}
    (h : (readToken settings s token).1.fault? settings.mode = some e) :
    outcome (Part.ofToken settings.mode settings.samples token) s =
      (.error (.pattern e), (readToken settings s token).2) := by
  rw [ofToken_eq]
  unfold readToken at h ⊢
  cases hq : request? settings.mode settings.samples token with
  | none =>
      rw [hq] at h
      cases h
  | some q =>
      obtain ⟨pattern, count⟩ := q
      rw [hq] at h
      rcases mode_of_request? hq with ⟨hm, rfl⟩ | ⟨hm, rfl⟩
      · rw [hm] at h
        simp only [hm, if_true, outcome_ofPattern]
        rcases hs : Sampler.sample s pattern 1 with ⟨e' | _ | _, s'⟩
        · simp only [hs, Reading.fault?] at h
          rw [Option.some.inj h]
        · simp only [hs, Reading.fault?, if_true] at h
          rw [pattern_of_request? hq, ← Option.some.inj h]
        · simp [hs, Reading.fault?] at h
      · rw [hm] at h
        simp only [hm, reduceCtorEq, if_false, outcome_ofPatternFan]
        rcases hs : Sampler.sample s pattern (max settings.samples 1) with ⟨e' | _ | _, s'⟩
        · simp only [hs, Reading.fault?] at h
          rw [← Option.some.inj h]
          rfl
        · simp [hs, Reading.fault?] at h
        · simp [hs, Reading.fault?] at h

/-! ### Verdicts -/

/-- The sampler `s` gives whatever the tokens ask for, read from left to right. -/
def AcceptsTokens (s : σ) (tokens : List Text) : Prop :=
  ∀ r ∈ (readTokens settings s tokens).1, r.Fulfilled settings.mode

/-- All lines are rules, and the sampler `s` gives whatever their tokens ask for. -/
def AcceptsLines (s : σ) (lines : List Text) : Prop :=
  (∀ line ∈ lines, (RuleLine.parse? line).isSome) ∧
    ∀ l ∈ (readLines settings s (lines.filterMap RuleLine.parse?)).1, ∀ r ∈ l.readings,
      r.Fulfilled settings.mode

instance (s : σ) (tokens : List Text) : Decidable (AcceptsTokens settings s tokens) :=
  inferInstanceAs (Decidable (∀ r ∈ _, _))

instance (s : σ) (lines : List Text) : Decidable (AcceptsLines settings s lines) :=
  inferInstanceAs (Decidable (_ ∧ _))

def afterLines (s : σ) (lines : List Text) : σ :=
  (readLines settings s (lines.filterMap RuleLine.parse?)).2

/-- How the walk over lines ends, of which the first has the number `n`, and what the sampler `s` is
asked on the way. -/
inductive Verdict (n : Nat) (s : σ) (lines : List Text) :
    Except ConversionError Unit → List (Text × Nat) → Prop
  /-- All lines are accepted, and all their tokens have made their requests. -/
  | accepted :
      AcceptsLines settings s lines → Verdict n s lines (.ok ()) (lineRequests settings lines)
  /-- The earlier lines are accepted and the next one is no rule.  None of its tokens is looked at. -/
  | malformed {earlier later : List Text} {line : Text} :
      lines = earlier ++ line :: later →
      AcceptsLines settings s earlier →
      RuleLine.parse? line = none →
      Verdict n s lines (.error (.malformedRule (n + earlier.length) (Text.chomp line)))
        (lineRequests settings earlier)
  /-- The earlier lines and the tokens before some token are accepted, and the answer to that token
  is not enough.  It is the last one that is asked for. -/
  | refused {earlier later : List Text} {line : Text} {rule : RuleLine} {before after : List Text}
      {token : Text} {e : PatternError} :
      lines = earlier ++ line :: later →
      AcceptsLines settings s earlier →
      RuleLine.parse? line = some rule →
      rule.tokens = before ++ token :: after →
      AcceptsTokens settings (afterLines settings s earlier) before →
      (readToken settings (readTokens settings (afterLines settings s earlier) before).2
        token).1.fault? settings.mode = some e →
      Verdict n s lines (.error (.pattern e))
        (lineRequests settings earlier ++ tokenRequests settings (before ++ [token]))

theorem yields_compileLines_of_accepts (n : Nat) {s : σ} {lines : List Text} (g : Grammar)
    (h : AcceptsLines settings s lines) :
    ∃ g', Yields (compileLines settings n lines g) s g' (afterLines settings s lines) :=
  ⟨_, (yields_compileLines settings n lines g _ s _).mpr ⟨h.1, h.2, rfl, rfl⟩⟩

/-! ### The walk ends as the verdict says -/

/-- Tokens are read up to the first whose answer is not enough. -/
theorem outcome_ofTokens_of_fault {s : σ} {before : List Text} {token : Text} (after : List Text)
    {e : PatternError} (hb : AcceptsTokens settings s before)
    (he : (readToken settings (readTokens settings s before).2 token).1.fault? settings.mode =
      some e) :
    ∃ s', outcome (Part.ofTokens settings.mode settings.samples (before ++ token :: after)) s =
        (.error (.pattern e), s') ∧
      Step.requests (Part.ofTokens settings.mode settings.samples (before ++ token :: after)) s =
        tokenRequests settings (before ++ [token]) := by
  induction before generalizing s with
  | nil =>
      have fails : outcome (Part.ofToken settings.mode settings.samples token) s =
          (.error (.pattern e), (readToken settings s token).2) :=
        outcome_ofToken_of_fault settings he
      refine ⟨_, outcome_bind_of_error fails _, ?_⟩
      rw [List.nil_append, List.nil_append]
      unfold Part.ofTokens
      rw [requests_bind_of_error fails, requests_ofToken]
  | cons first before ih =>
      obtain ⟨hf, hb⟩ := List.forall_mem_cons.mp hb
      have yields := (yields_ofToken settings first s _ _).mpr ⟨hf, rfl, rfl⟩
      obtain ⟨s', fails, asked⟩ := ih hb he
      refine ⟨s', ?_, ?_⟩
      · rw [List.cons_append]
        unfold Part.ofTokens
        rw [outcome_bind_of_yields yields, outcome_bind_of_error fails]
      · rw [List.cons_append]
        unfold Part.ofTokens
        rw [requests_bind_of_yields yields, requests_bind_of_error fails, asked, requests_ofToken,
          ← tokenRequests_append]
        rfl

/-- A line that is no rule fails before the sampler is asked for anything. -/
theorem outcome_compileLines_of_none {s : σ} {n : Nat} {line : Text} {later : List Text}
    {g : Grammar} (h : RuleLine.parse? line = none) :
    outcome (compileLines settings n (line :: later) g) s =
        (.error (.malformedRule n (Text.chomp line)), s) ∧
      Step.requests (compileLines settings n (line :: later) g) s = [] := by
  have fails : outcome (compileLine settings n line) s =
      (.error (.malformedRule n (Text.chomp line)), s) := by
    unfold compileLine
    apply outcome_bind_of_error
    rw [outcome_mk, RuleLine.parse, h]
  have silent : Step.requests (compileLine settings n line) s = [] := by
    unfold compileLine
    rw [requests_bind, requests_mk, outcome_mk, RuleLine.parse, h]
    rfl
  unfold compileLines
  exact ⟨outcome_bind_of_error fails _, (requests_bind_of_error fails _).trans silent⟩

/-- A rule fails at its first token whose answer is not enough. -/
theorem outcome_compileLines_of_fault {s : σ} {n : Nat} {line : Text} {later : List Text}
    {g : Grammar} {rule : RuleLine} {before after : List Text} {token : Text} {e : PatternError}
    (hr : RuleLine.parse? line = some rule) (ht : rule.tokens = before ++ token :: after)
    (hb : AcceptsTokens settings s before)
    (he : (readToken settings (readTokens settings s before).2 token).1.fault? settings.mode =
      some e) :
    ∃ s', outcome (compileLines settings n (line :: later) g) s = (.error (.pattern e), s') ∧
      Step.requests (compileLines settings n (line :: later) g) s =
        tokenRequests settings (before ++ [token]) := by
  obtain ⟨s', fails, asked⟩ := outcome_ofTokens_of_fault settings after hb he
  rw [← ht] at fails asked
  have parsed := (yields_parse n line s s rule).mpr ⟨hr, rfl⟩
  have failsLine : outcome (compileLine settings n line) s = (.error (.pattern e), s') := by
    unfold compileLine
    rw [outcome_bind_of_yields parsed, outcome_bind_of_error fails]
  have askedLine : Step.requests (compileLine settings n line) s =
      tokenRequests settings (before ++ [token]) := by
    unfold compileLine
    rw [requests_bind_of_yields parsed, requests_bind_of_error fails, asked]
    rfl
  unfold compileLines
  exact ⟨s', outcome_bind_of_error failsLine _, (requests_bind_of_error failsLine _).trans askedLine⟩

theorem outcome_compileLines_append {n : Nat} {s : σ} {earlier rest : List Text} {g : Grammar}
    (h : AcceptsLines settings s earlier) :
    ∃ g', outcome (compileLines settings n (earlier ++ rest) g) s =
        outcome (compileLines settings (n + earlier.length) rest g') (afterLines settings s earlier) ∧
      Step.requests (compileLines settings n (earlier ++ rest) g) s =
        lineRequests settings earlier ++
          Step.requests (compileLines settings (n + earlier.length) rest g')
            (afterLines settings s earlier) := by
  obtain ⟨g', yields⟩ := yields_compileLines_of_accepts settings n g h
  refine ⟨g', ?_, ?_⟩
  · rw [compileLines_append, outcome_bind_of_yields yields]
  · rw [compileLines_append, requests_bind_of_yields yields, requests_compileLines settings yields]

/-- The walk over lines ends as a verdict on them says. -/
theorem Verdict.sound {n : Nat} {s : σ} {lines : List Text} {result : Except ConversionError Unit}
    {requests : List (Text × Nat)} (h : Verdict settings n s lines result requests) (g : Grammar) :
    (outcome (compileLines settings n lines g) s).1.map (fun _ => ()) = result ∧
      Step.requests (compileLines settings n lines g) s = requests := by
  cases h with
  | accepted ha =>
      obtain ⟨g', yields⟩ := yields_compileLines_of_accepts settings n g ha
      refine ⟨?_, requests_compileLines settings yields⟩
      rw [yields]
      rfl
  | @malformed earlier later line hl ha hn =>
      obtain ⟨g', ends, asked⟩ := outcome_compileLines_append settings ha (n := n) (g := g)
      obtain ⟨fails, silent⟩ := outcome_compileLines_of_none settings hn (g := g')
        (s := afterLines settings s earlier)
      rw [hl, ends, asked, fails, silent]
      exact ⟨rfl, List.append_nil _⟩
  | refused hl ha hr ht hb he =>
      obtain ⟨g', ends, asked⟩ := outcome_compileLines_append settings ha (n := n) (g := g)
      obtain ⟨s', fails, last⟩ := outcome_compileLines_of_fault settings hr ht hb he
      rw [hl, ends, asked, fails, last]
      exact ⟨rfl, rfl⟩

/-- Tokens are accepted, or there is a first one whose answer is not enough. -/
theorem acceptsTokens_or_fault (s : σ) (tokens : List Text) :
    AcceptsTokens settings s tokens ∨
      ∃ before token after e, tokens = before ++ token :: after ∧
        AcceptsTokens settings s before ∧
        (readToken settings (readTokens settings s before).2 token).1.fault? settings.mode =
          some e := by
  induction tokens generalizing s with
  | nil => exact .inl fun r hr => nomatch hr
  | cons token tokens ih =>
      cases he : (readToken settings s token).1.fault? settings.mode with
      | some e => exact .inr ⟨[], token, tokens, e, rfl, fun r hr => (nomatch hr), he⟩
      | none =>
          have first := (Reading.fulfilled_iff settings.mode _).mpr he
          rcases ih (readToken settings s token).2 with h | ⟨before, next, after, e, rfl, hb, he⟩
          · exact .inl (List.forall_mem_cons.mpr ⟨first, h⟩)
          · exact .inr ⟨token :: before, next, after, e, rfl,
              List.forall_mem_cons.mpr ⟨first, hb⟩, he⟩

theorem acceptsLines_nil (s : σ) : AcceptsLines settings s [] :=
  ⟨fun _ hl => (nomatch hl), fun _ hl => (nomatch hl)⟩

theorem acceptsLines_cons {s : σ} {line : Text} {rule : RuleLine} {lines : List Text}
    (hr : RuleLine.parse? line = some rule) (ht : AcceptsTokens settings s rule.tokens)
    (h : AcceptsLines settings (readTokens settings s rule.tokens).2 lines) :
    AcceptsLines settings s (line :: lines) := by
  refine ⟨List.forall_mem_cons.mpr ⟨by rw [hr]; rfl, h.1⟩, ?_⟩
  rw [List.filterMap_cons_some hr]
  exact List.forall_mem_cons.mpr ⟨ht, h.2⟩

theorem afterLines_cons {line : Text} {rule : RuleLine} (hr : RuleLine.parse? line = some rule)
    (s : σ) (lines : List Text) :
    afterLines settings s (line :: lines) =
      afterLines settings (readTokens settings s rule.tokens).2 lines := by
  unfold afterLines
  rw [List.filterMap_cons_some hr]
  rfl

/-- A line that is accepted puts its requests in front. -/
theorem Verdict.cons {n : Nat} {s : σ} {line : Text} {rule : RuleLine} {lines : List Text}
    {result : Except ConversionError Unit} {requests : List (Text × Nat)}
    (hr : RuleLine.parse? line = some rule) (ht : AcceptsTokens settings s rule.tokens)
    (h : Verdict settings (n + 1) (readTokens settings s rule.tokens).2 lines result requests) :
    Verdict settings n s (line :: lines) result (tokenRequests settings rule.tokens ++ requests) := by
  cases h with
  | accepted ha =>
      rw [← lineRequests_cons settings hr]
      exact .accepted (acceptsLines_cons settings hr ht ha)
  | @malformed earlier later bad hl ha hn =>
      have number : n + 1 + earlier.length = n + (line :: earlier).length := by
        rw [List.length_cons]
        omega
      rw [← lineRequests_cons settings hr, number]
      exact .malformed (by rw [hl]; rfl) (acceptsLines_cons settings hr ht ha) hn
  | refused hl ha hr' ht' hb he =>
      rw [← List.append_assoc, ← lineRequests_cons settings hr]
      rw [← afterLines_cons settings hr] at hb he
      exact .refused (by rw [hl]; rfl) (acceptsLines_cons settings hr ht ha) hr' ht' hb he

theorem exists_verdict (n : Nat) (s : σ) (lines : List Text) :
    ∃ result requests, Verdict settings n s lines result requests := by
  induction lines generalizing n s with
  | nil => exact ⟨_, _, .accepted (acceptsLines_nil settings s)⟩
  | cons line lines ih =>
      have nothing := acceptsLines_nil settings s
      cases hr : RuleLine.parse? line with
      | none =>
          have start : line :: lines = [] ++ line :: lines := rfl
          exact ⟨_, _, .malformed start nothing hr⟩
      | some rule =>
          rcases acceptsTokens_or_fault settings s rule.tokens with
            ht | ⟨before, token, after, e, ht, hb, he⟩
          · obtain ⟨result, requests, h⟩ := ih (n + 1) (readTokens settings s rule.tokens).2
            exact ⟨_, _, h.cons settings hr ht⟩
          · have start : line :: lines = [] ++ line :: lines := rfl
            exact ⟨_, _, .refused start nothing hr ht hb he⟩

/-- Lines have exactly one verdict, and that is how the walk over them ends. -/
theorem verdict_iff (n : Nat) (s : σ) (lines : List Text) (g : Grammar)
    (result : Except ConversionError Unit) (requests : List (Text × Nat)) :
    Verdict settings n s lines result requests ↔
      (outcome (compileLines settings n lines g) s).1.map (fun _ => ()) = result ∧
        Step.requests (compileLines settings n lines g) s = requests := by
  constructor
  · exact fun h => h.sound settings g
  · rintro ⟨rfl, rfl⟩
    obtain ⟨result, requests, h⟩ := exists_verdict settings n s lines
    obtain ⟨rfl, rfl⟩ := h.sound settings g
    exact h

/-- Where tokens are not taken for patterns, nothing is asked for. -/
theorem Verdict.requests_plain {n : Nat} {s : σ} {lines : List Text}
    {result : Except ConversionError Unit} {requests : List (Text × Nat)}
    (hm : settings.mode = .plain) (h : Verdict settings n s lines result requests) :
    requests = [] := by
  have tokens (tokens : List Text) : tokenRequests settings tokens = [] := by
    unfold tokenRequests
    rw [hm]
    exact List.filterMap_eq_nil_iff.mpr fun token _ => request?_plain settings.samples token
  have lines (lines : List Text) : lineRequests settings lines = [] := by
    unfold lineRequests
    exact List.flatMap_eq_nil_iff.mpr fun rule _ => tokens rule.tokens
  cases h with
  | accepted _ => exact lines _
  | malformed _ _ _ => exact lines _
  | refused _ _ _ _ _ _ => rw [lines, tokens, List.append_nil]

/-! ### Sources -/

namespace Workbench

variable (w : Workbench σ) (source : Text)

theorem verdict_addSource :
    Verdict w.settings 1 w.sampler (Text.lines source) (w.addSource source).1
      (w.requests source) := by
  rw [addSource_fst, requests_eq]
  exact (verdict_iff w.settings 1 w.sampler (Text.lines source) w.grammar _ _).mpr ⟨rfl, rfl⟩

/-- **Adding a source ends at its first failure.**  What it comes to and what the sampler is asked
on the way are those of the one verdict on its lines, counted from 1; and without patterns the
sampler is not asked at all. -/
theorem addSource_verdict :
    (∀ result requests, Verdict w.settings 1 w.sampler (Text.lines source) result requests ↔
      (w.addSource source).1 = result ∧ w.requests source = requests) ∧
      (w.settings.mode = .plain → w.requests source = []) := by
  have verdict : ∀ result requests,
      Verdict w.settings 1 w.sampler (Text.lines source) result requests ↔
        (w.addSource source).1 = result ∧ w.requests source = requests := by
    intro result requests
    rw [addSource_fst, requests_eq]
    exact verdict_iff w.settings 1 w.sampler (Text.lines source) w.grammar result requests
  exact ⟨verdict, fun hm => ((verdict _ _).mpr ⟨rfl, rfl⟩).requests_plain w.settings hm⟩

/-- A refusal on the second line, before another token and a line that is no rule. -/
theorem addSource_verdict_refused :
    let error : PatternError := { pattern := ['Q'], reason := "none".toList }
    let source := "a: x rP\nb: y rQ\r rS\nc\n".toList
    let w : Workbench Prepared :=
      { settings := { mode := .single }, sampler := ⟨[.ok [['1']], .error error, .ok []]⟩ }
    let quiet : Workbench Prepared := { w with settings.mode := .plain }
    (w.addSource source).1 = .error (.pattern error) ∧
      w.requests source = [(['P'], 1), (['Q'], 1)] ∧
      quiet.settings.mode = .plain ∧ quiet.requests source = [] := by
  intro error source w quiet
  have verdict : Verdict w.settings 1 w.sampler (Text.lines source) (.error (.pattern error))
      (lineRequests w.settings ["a: x rP\n".toList] ++
        tokenRequests w.settings [['y'], "rQ\r".toList]) := by
    have rule : RuleLine.parse? "b: y rQ\r rS\n".toList =
        some { label := ['b'], tokens := [['y'], "rQ\r".toList, "rS\n".toList] } := by decide
    have cut : Text.lines source =
        ["a: x rP\n".toList] ++ "b: y rQ\r rS\n".toList :: ["c\n".toList] := by decide
    have split : [['y'], "rQ\r".toList, "rS\n".toList] =
        [['y']] ++ "rQ\r".toList :: ["rS\n".toList] := rfl
    exact .refused cut (by decide) rule split (by decide) (by decide)
  obtain ⟨ends, asked⟩ := ((w.addSource_verdict source).1 _ _).mp verdict
  exact ⟨ends, asked.trans (by decide), rfl, (quiet.addSource_verdict source).2 rfl⟩

end Workbench
end LineGrammar
