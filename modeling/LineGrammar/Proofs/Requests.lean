import LineGrammar.Proofs.Compilation

/-! # Requests

What the sampler is asked while a source is added.  A sampler with a log beside it
(`Recording`) answers as it does without one, and finds in the log what it was asked; that is what
`Workbench.requests` reads off.  The log holds the requests of the step behind it (`requests_eq`).

A token makes the one request that its first character and the mode call for, or none
(`requests_ofToken`), and lines that are accepted make those of all their tokens, in order
(`requests_compileLines`). -/

namespace LineGrammar

open Step

variable {α σ : Type} [Sampler σ]

/-- A sampler, and what it was asked. -/
structure Recording (σ : Type) where
  sampler : σ
  log : List (Text × Nat) := []

instance : Sampler (Recording σ) where
  sample s pattern count :=
    let (answer, sampler) := Sampler.sample s.sampler pattern count
    (answer, { sampler, log := s.log ++ [(pattern, count)] })

theorem Dialogue.run_recording (d : Dialogue α) (s : Recording σ) :
    d.run s =
      ((d.run s.sampler).1,
        { sampler := (d.run s.sampler).2, log := s.log ++ d.requests s.sampler }) := by
  induction d generalizing s with
  | done a => simp [run, requests]
  | ask pattern count next ih =>
      unfold run requests
      rw [ih]
      simp [Sampler.sample]

theorem Dialogue.run_of_requests_nil {d : Dialogue α} {s : σ} (h : d.requests s = []) :
    (d.run s).2 = s := by
  cases d with
  | done a => rfl
  | ask pattern count next => exact (nomatch h)

namespace Workbench

variable (w : Workbench σ) (source : Text)

/-- The workbench with an empty log beside its sampler. -/
def recording : Workbench (Recording σ) :=
  { grammar := w.grammar, settings := w.settings, sampler := { sampler := w.sampler } }

/-- What the sampler is asked while a source is added, in order. -/
def requests : List (Text × Nat) := (w.recording.addSource source).2.sampler.log

/-- Adding a source, told by the outcome of the step behind it. -/
theorem addSource_eq :
    w.addSource source =
      match outcome (compile w.settings source w.grammar) w.sampler with
      | (.ok grammar, sampler) => (.ok (), { w with grammar, sampler })
      | (.error e, sampler) => (.error e, { w with sampler }) := rfl

theorem addSource_of_outcome_error {e : ConversionError} {s' : σ}
    (h : outcome (compile w.settings source w.grammar) w.sampler = (.error e, s')) :
    w.addSource source = (.error e, { w with sampler := s' }) := by
  rw [addSource_eq, h]

theorem addSource_fst :
    (w.addSource source).1 =
      (outcome (compile w.settings source w.grammar) w.sampler).1.map fun _ => () := by
  rw [addSource_eq]
  rcases outcome (compile w.settings source w.grammar) w.sampler with ⟨_ | _, _⟩ <;> rfl

theorem sampler_addSource :
    (w.addSource source).2.sampler =
      (outcome (compile w.settings source w.grammar) w.sampler).2 := by
  rw [addSource_eq]
  rcases outcome (compile w.settings source w.grammar) w.sampler with ⟨_ | _, _⟩ <;> rfl

theorem requests_eq :
    w.requests source = Step.requests (compile w.settings source w.grammar) w.sampler := by
  have logged := Dialogue.run_recording (ExceptT.run (compile w.settings source w.grammar))
    w.recording.sampler
  unfold requests
  rw [sampler_addSource]
  unfold outcome
  exact (congrArg (fun r => r.2.log) logged).trans (List.nil_append _)

/-- A sampler that is not asked does not change. -/
theorem sampler_of_requests_nil (h : w.requests source = []) :
    (w.addSource source).2.sampler = w.sampler := by
  rw [requests_eq] at h
  rw [sampler_addSource]
  exact Dialogue.run_of_requests_nil h

end Workbench

/-! ### What tokens and lines ask for -/

variable (settings : Settings)

/-- The requests that tokens make, from left to right. -/
def tokenRequests (tokens : List Text) : List (Text × Nat) :=
  tokens.filterMap (request? settings.mode settings.samples)

/-- The requests that the tokens of lines make, line by line. -/
def lineRequests (lines : List Text) : List (Text × Nat) :=
  (lines.filterMap RuleLine.parse?).flatMap fun rule => tokenRequests settings rule.tokens

theorem tokenRequests_append (as bs : List Text) :
    tokenRequests settings (as ++ bs) = tokenRequests settings as ++ tokenRequests settings bs :=
  List.filterMap_append

theorem tokenRequests_singleton (token : Text) :
    tokenRequests settings [token] = (request? settings.mode settings.samples token).toList := by
  unfold tokenRequests
  rw [List.filterMap_cons]
  cases request? settings.mode settings.samples token <;> rfl

theorem lineRequests_cons {line : Text} {rule : RuleLine} (h : RuleLine.parse? line = some rule)
    (lines : List Text) :
    lineRequests settings (line :: lines) =
      tokenRequests settings rule.tokens ++ lineRequests settings lines := by
  unfold lineRequests
  rw [List.filterMap_cons_some h, List.flatMap_cons]

theorem request?_plain (samples : Nat) (token : Text) : request? .plain samples token = none := by
  unfold request?
  split <;> rfl

theorem pattern_of_request? {mode : Mode} {samples count : Nat} {token pattern : Text}
    (h : request? mode samples token = some (pattern, count)) :
    pattern = (Text.chomp token).tail := by
  unfold request? at h
  split at h
  · cases mode with
    | plain => cases h
    | single => exact (Prod.mk.inj (Option.some.inj h)).1.symm
    | multi => exact (Prod.mk.inj (Option.some.inj h)).1.symm
  · cases h

theorem requests_ofPattern (pattern : Text) (s : σ) :
    Step.requests (Part.ofPattern pattern) s = [(pattern, 1)] := by
  unfold Part.ofPattern
  rw [requests_bind, requests_sample, outcome_sample]
  rcases Sampler.sample s pattern 1 with ⟨_ | _ | _, _⟩ <;> rfl

theorem requests_ofPatternFan (samples : Nat) (pattern : Text) (s : σ) :
    Step.requests (Part.ofPatternFan samples pattern) s = [(pattern, max samples 1)] := by
  unfold Part.ofPatternFan
  rw [requests_bind, requests_sample, outcome_sample]
  rcases Sampler.sample s pattern (max samples 1) with ⟨_ | _, _⟩ <;> rfl

/-- A token makes its request, whatever the answer. -/
theorem requests_ofToken (token : Text) (s : σ) :
    Step.requests (Part.ofToken settings.mode settings.samples token) s =
      tokenRequests settings [token] := by
  rw [ofToken_eq, tokenRequests_singleton]
  cases hq : request? settings.mode settings.samples token with
  | none => exact requests_pure _ s
  | some q =>
      obtain ⟨pattern, count⟩ := q
      rcases mode_of_request? hq with ⟨hm, rfl⟩ | ⟨hm, rfl⟩
      · simp only [hm, if_true]
        exact requests_ofPattern pattern s
      · simp only [hm, reduceCtorEq, if_false]
        exact requests_ofPatternFan settings.samples pattern s

theorem requests_ofTokens {tokens : List Text} {s s' : σ} {parts : List Part}
    (h : Yields (Part.ofTokens settings.mode settings.samples tokens) s parts s') :
    Step.requests (Part.ofTokens settings.mode settings.samples tokens) s =
      tokenRequests settings tokens := by
  induction tokens generalizing s s' parts with
  | nil => exact requests_pure _ s
  | cons token tokens ih =>
      unfold Part.ofTokens at h ⊢
      obtain ⟨part, s₁, hp, h⟩ := (yields_bind _ _ _ _ _).mp h
      obtain ⟨parts, s₂, hps, -⟩ := (yields_bind _ _ _ _ _).mp h
      rw [requests_bind_of_yields hp, requests_ofToken, requests_bind_of_yields hps, ih hps,
        requests_pure, List.append_nil, ← tokenRequests_append, List.singleton_append]

/-- A line that is a rule and is read to the end makes the requests of its tokens. -/
theorem requests_compileLine {n : Nat} {line : Text} {rule : RuleLine} {s s' : σ}
    {added : Text × List Alternative} (hr : RuleLine.parse? line = some rule)
    (h : Yields (compileLine settings n line) s added s') :
    Step.requests (compileLine settings n line) s = tokenRequests settings rule.tokens := by
  unfold compileLine at h ⊢
  obtain ⟨rule', s₁, hp, h⟩ := (yields_bind _ _ _ _ _).mp h
  obtain ⟨parts, s₂, ht, -⟩ := (yields_bind _ _ _ _ _).mp h
  obtain ⟨hr', rfl⟩ := (yields_parse n line s s₁ rule').mp hp
  obtain rfl : rule = rule' := Option.some.inj (hr.symm.trans hr')
  rw [requests_bind_of_yields hp, requests_mk, requests_bind_of_yields ht,
    requests_ofTokens settings ht, requests_pure, List.nil_append, List.append_nil]

/-- Lines that are compiled to the end make the requests of all their tokens. -/
theorem requests_compileLines {n : Nat} {lines : List Text} {g g' : Grammar} {s s' : σ}
    (h : Yields (compileLines settings n lines g) s g' s') :
    Step.requests (compileLines settings n lines g) s = lineRequests settings lines := by
  induction lines generalizing n g s with
  | nil => exact requests_pure _ s
  | cons line lines ih =>
      unfold compileLines at h ⊢
      obtain ⟨added, s₁, hl, h⟩ := (yields_bind _ _ _ _ _).mp h
      obtain ⟨rule, hr, -⟩ := (yields_compileLine settings n line s s₁ added).mp hl
      rw [requests_bind_of_yields hl, requests_compileLine settings hr hl, ih h,
        lineRequests_cons settings hr]

end LineGrammar
