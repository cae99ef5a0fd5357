import LineGrammar.Compile
import LineGrammar.Proofs.Step
import LineGrammar.Proofs.Text.Ends
import Mathlib.Data.List.Basic

/-! # Readings

What is found in a source, without a thought of failure: each token is taken together with the
answer of the sampler to it, if it holds a pattern, and the sampler that answered one token is asked
for the next.  `readTokens` does this for the tokens of a line and `readLines` for the lines of a
source.

From the readings of a line it can be told whether the line can be compiled (`Fulfilled`) and which
alternatives it adds (`alternativesOf`).  A step that reads tokens yields exactly this
(`yields_ofTokens`). -/

namespace LineGrammar

variable {σ : Type} [Sampler σ]

/-! ### Requests -/

/-- The request for strings that a token makes: its pattern, and how many strings are asked for. -/
def request? (mode : Mode) (samples : Nat) (token : Text) : Option (Text × Nat) :=
  if token.head? = some 'r' then
    match mode with
    | .plain => none
    | .single => some ((Text.chomp token).tail, 1)
    | .multi => some ((Text.chomp token).tail, max samples 1)
  else none

/-- A token and the answer of the sampler to it, if the sampler was asked. -/
structure Reading where
  token : Text
  answer? : Option (Except PatternError (List Text))

namespace Reading

variable (mode : Mode) (r : Reading)

/-- The sampler has given what it was asked for: strings, of which there is at least one if one is
to take the place of the token. -/
def Fulfilled : Prop :=
  match r.answer? with
  | none => True
  | some (.error _) => False
  | some (.ok strings) => mode = .single → strings ≠ []

instance : Decidable (r.Fulfilled mode) :=
  match r with
  | ⟨_, none⟩ => .isTrue trivial
  | ⟨_, some (.error _)⟩ => .isFalse id
  | ⟨_, some (.ok strings)⟩ => inferInstanceAs (Decidable (mode = .single → strings ≠ []))

def strings : List Text :=
  match r.answer? with
  | some (.ok strings) => strings
  | _ => []

/-- Whether the strings of the answer become alternatives of their own. -/
def fansOut : Bool := mode = .multi ∧ r.answer?.isSome

/-- The symbol in the place of the token: the first string of the answer, or the token itself. -/
def symbol : Symbol :=
  match r.answer? with
  | some _ => .terminal (Text.stripFirst 'r' (r.strings.headD []))
  | none => .ofToken (Text.chomp r.token)

def part : Part :=
  if r.fansOut mode then .fanOut (r.strings.map cleanFanOut) else .symbol r.symbol

end Reading

/-! ### Reading tokens and lines -/

/-- What `f` makes of the items of a list, where each item leaves a new state for the next one. -/
def thread {α β : Type} (f : σ → α → β × σ) : σ → List α → List β × σ
  | s, [] => ([], s)
  | s, a :: as => ((f s a).1 :: (thread f (f s a).2 as).1, (thread f (f s a).2 as).2)

omit [Sampler σ] in
theorem mem_thread {α β : Type} {f : σ → α → β × σ} {s : σ} {as : List α} {b : β}
    (h : b ∈ (thread f s as).1) : ∃ s', ∃ a ∈ as, b = (f s' a).1 := by
  induction as generalizing s with
  | nil => exact (nomatch h)
  | cons a as ih =>
      rcases List.mem_cons.mp h with rfl | h
      · exact ⟨s, a, List.mem_cons_self, rfl⟩
      · obtain ⟨s', a', ha', hb⟩ := ih h
        exact ⟨s', a', List.mem_cons_of_mem a ha', hb⟩

omit [Sampler σ] in
/-- What every item keeps holds of the state behind all items. -/
theorem thread_keeps {α β : Type} {f : σ → α → β × σ} {I : σ → Prop}
    (step : ∀ s a, I s → I (f s a).2) {s : σ} (hs : I s) (as : List α) :
    I (thread f s as).2 := by
  induction as generalizing s with
  | nil => exact hs
  | cons a as ih => exact ih (step s a hs)

omit [Sampler σ] in
/-- Where each item is made into the image of what it is made into elsewhere and the state stays, so
are all items. -/
theorem thread_eq_map {α β γ : Type} {f : σ → α → β × σ} {f' : σ → α → γ × σ} {g : β → γ}
    (h : ∀ s s' a, f' s' a = (g (f s a).1, s')) (s s' : σ) (as : List α) :
    thread f' s' as = ((thread f s as).1.map g, s') := by
  induction as generalizing s with
  | nil => rfl
  | cons a as ih =>
      unfold thread
      rw [h s s' a, ih (f s a).2]
      rfl

variable (settings : Settings)

/-- The reading of a token, and the sampler after it. -/
def readToken (s : σ) (token : Text) : Reading × σ :=
  match request? settings.mode settings.samples token with
  | none => ({ token, answer? := none }, s)
  | some (pattern, count) =>
    let answer := Sampler.sample s pattern count
    ({ token, answer? := some answer.1 }, answer.2)

def readTokens : σ → List Text → List Reading × σ := thread (readToken settings)

/-- The alternatives that a line adds, from the readings of its tokens: every string of every token
that fans out, or, if none does, the symbols of all tokens. -/
def alternativesOf (readings : List Reading) : List Alternative :=
  let fans := readings.filter (Reading.fansOut settings.mode)
  let symbols := readings.map Reading.symbol
  if fans = [] then [if settings.spacing then Alternative.spaced symbols else symbols]
  else (fans.flatMap Reading.strings).map fun s => [.terminal (cleanFanOut s)]

/-- A line with the readings of its tokens. -/
structure ReadLine where
  label : Text
  readings : List Reading

/-- The reading of a line, and the sampler after it. -/
def readLine (s : σ) (rule : RuleLine) : ReadLine × σ :=
  let tokens := readTokens settings s rule.tokens
  ({ label := rule.label, readings := tokens.1 }, tokens.2)

def readLines : σ → List RuleLine → List ReadLine × σ := thread (readLine settings)

def ReadLine.rule (l : ReadLine) : Rule :=
  { name := l.label, alternatives := alternativesOf settings l.readings }

theorem fanOut?_part (mode : Mode) (r : Reading) :
    (r.part mode).fanOut? = if r.fansOut mode then some (r.strings.map cleanFanOut) else none := by
  unfold Reading.part
  split <;> rfl

theorem symbol?_part (mode : Mode) (r : Reading) :
    (r.part mode).symbol? = if r.fansOut mode then none else some r.symbol := by
  unfold Reading.part
  split <;> rfl

theorem filterMap_fanOut?_part (mode : Mode) (readings : List Reading) :
    (readings.map (Reading.part mode)).filterMap Part.fanOut? =
      (readings.filter (Reading.fansOut mode)).map fun r => r.strings.map cleanFanOut := by
  induction readings with
  | nil => rfl
  | cons r rs ih =>
      rw [List.map_cons, List.filterMap_cons, fanOut?_part, ih]
      by_cases h : r.fansOut mode <;> simp [h]

theorem filterMap_symbol?_part {mode : Mode} {readings : List Reading}
    (h : readings.filter (Reading.fansOut mode) = []) :
    (readings.map (Reading.part mode)).filterMap Part.symbol? = readings.map Reading.symbol := by
  rw [List.filterMap_map, ← List.filterMap_eq_map]
  apply List.filterMap_congr
  intro r hr
  rw [Function.comp_apply, symbol?_part, if_neg (List.filter_eq_nil_iff.mp h r hr)]
  rfl

/-- Symbols alone make up one alternative. -/
theorem ofParts_map_symbol (spacing : Bool) (a : Alternative) :
    Alternative.ofParts spacing (a.map .symbol) =
      [if spacing then Alternative.spaced a else a] := by
  have fans : (a.map Part.symbol).filterMap Part.fanOut? = [] := by
    rw [List.filterMap_map]
    exact List.filterMap_eq_nil_iff.mpr fun s _ => rfl
  have symbols : (a.map Part.symbol).filterMap Part.symbol? = a := by
    rw [List.filterMap_map]
    exact List.filterMap_some
  unfold Alternative.ofParts
  rw [fans, symbols]

/-- The alternatives of a line, told from its readings. -/
theorem ofParts_part (readings : List Reading) :
    Alternative.ofParts settings.spacing (readings.map (Reading.part settings.mode)) =
      alternativesOf settings readings := by
  unfold Alternative.ofParts alternativesOf
  rw [filterMap_fanOut?_part]
  cases h : readings.filter (Reading.fansOut settings.mode) with
  | nil => simp only [List.map_nil, filterMap_symbol?_part h, if_true]
  | cons r rs =>
      simp [List.flatMap, List.map_flatten, Function.comp_def]

/-! ### What steps yield -/

open Step

theorem yields_ofPattern (pattern : Text) (s s' : σ) (part : Part) :
    Yields (Part.ofPattern pattern) s part s' ↔
      ∃ string strings, Sampler.sample s pattern 1 = (.ok (string :: strings), s') ∧
        part = .symbol (.terminal (Text.stripFirst 'r' string)) := by
  unfold Part.ofPattern
  rw [yields_bind]
  constructor
  · rintro ⟨strings, s₁, hs, hp⟩
    rw [yields_sample] at hs
    cases strings with
    | nil => exact absurd hp (not_yields_throw _ _ _ _)
    | cons string strings =>
        obtain ⟨rfl, rfl⟩ := (yields_pure _ _ _ _).mp hp
        exact ⟨string, strings, hs, rfl⟩
  · rintro ⟨string, strings, hs, rfl⟩
    exact ⟨string :: strings, s', (yields_sample _ _ _ _ _).mpr hs,
      (yields_pure _ _ _ _).mpr ⟨rfl, rfl⟩⟩

theorem yields_ofPatternFan (samples : Nat) (pattern : Text) (s s' : σ) (part : Part) :
    Yields (Part.ofPatternFan samples pattern) s part s' ↔
      ∃ strings, Sampler.sample s pattern (max samples 1) = (.ok strings, s') ∧
        part = .fanOut (strings.map cleanFanOut) := by
  unfold Part.ofPatternFan
  rw [yields_bind]
  constructor
  · rintro ⟨strings, s₁, hs, hp⟩
    obtain ⟨rfl, rfl⟩ := (yields_pure _ _ _ _).mp hp
    exact ⟨strings, (yields_sample _ _ _ _ _).mp hs, rfl⟩
  · rintro ⟨strings, hs, rfl⟩
    exact ⟨strings, s', (yields_sample _ _ _ _ _).mpr hs, (yields_pure _ _ _ _).mpr ⟨rfl, rfl⟩⟩

/-- What a token becomes, told by the request that it makes. -/
theorem ofToken_eq (mode : Mode) (samples : Nat) (token : Text) :
    Part.ofToken mode samples token =
      match request? mode samples token with
      | none => pure (.symbol (.ofToken (Text.chomp token)))
      | some (pattern, _) =>
        if mode = .single then Part.ofPattern pattern else Part.ofPatternFan samples pattern := by
  unfold Part.ofToken request?
  simp only [pattern?_chomp]
  by_cases h : token.head? = some 'r'
  · cases mode <;> simp [h]
  · simp [h]

/-- A request is made in the modes that know patterns, for as many strings as the mode takes. -/
theorem mode_of_request? {mode : Mode} {samples count : Nat} {token pattern : Text}
    (h : request? mode samples token = some (pattern, count)) :
    mode = .single ∧ count = 1 ∨ mode = .multi ∧ count = max samples 1 := by
  unfold request? at h
  split at h
  · cases mode with
    | plain => cases h
    | single => exact .inl ⟨rfl, (Prod.mk.inj (Option.some.inj h)).2.symm⟩
    | multi => exact .inr ⟨rfl, (Prod.mk.inj (Option.some.inj h)).2.symm⟩
  · cases h

/-- A token becomes what its reading says, if the sampler gives what it is asked for. -/
theorem yields_ofToken (token : Text) (s s' : σ) (part : Part) :
    Yields (Part.ofToken settings.mode settings.samples token) s part s' ↔
      (readToken settings s token).1.Fulfilled settings.mode ∧
        part = (readToken settings s token).1.part settings.mode ∧
        s' = (readToken settings s token).2 := by
  rw [ofToken_eq]
  unfold readToken
  cases hq : request? settings.mode settings.samples token with
  | none =>
      simp only [yields_pure]
      simp [Reading.Fulfilled, Reading.part, Reading.fansOut, Reading.symbol]
  | some q =>
      obtain ⟨pattern, count⟩ := q
      rcases mode_of_request? hq with ⟨hm, rfl⟩ | ⟨hm, rfl⟩
      · simp only [hm, if_true, yields_ofPattern]
        rcases Sampler.sample s pattern 1 with ⟨_ | _ | _, _⟩ <;>
          simp [Reading.Fulfilled, Reading.part, Reading.fansOut, Reading.symbol, Reading.strings,
            eq_comm, and_comm]
      · simp only [hm, reduceCtorEq, if_false, yields_ofPatternFan]
        rcases Sampler.sample s pattern (max settings.samples 1) with ⟨_ | _, _⟩ <;>
          simp [Reading.Fulfilled, Reading.part, Reading.fansOut, Reading.strings, eq_comm,
            and_comm]

/-- Tokens become what their readings say, if the sampler gives whatever it is asked for. -/
theorem yields_ofTokens (tokens : List Text) (s s' : σ) (parts : List Part) :
    Yields (Part.ofTokens settings.mode settings.samples tokens) s parts s' ↔
      (∀ r ∈ (readTokens settings s tokens).1, r.Fulfilled settings.mode) ∧
        parts = (readTokens settings s tokens).1.map (Reading.part settings.mode) ∧
        s' = (readTokens settings s tokens).2 := by
  induction tokens generalizing s s' parts with
  | nil =>
      unfold Part.ofTokens
      rw [yields_pure]
      simp [readTokens, thread]
  | cons token tokens ih =>
      unfold Part.ofTokens
      simp only [yields_bind, yields_pure, yields_ofToken, ih]
      constructor
      · rintro ⟨part, s₁, ⟨hf, rfl, rfl⟩, parts, s₂, ⟨hfs, rfl, rfl⟩, rfl, rfl⟩
        exact ⟨List.forall_mem_cons.mpr ⟨hf, hfs⟩, rfl, rfl⟩
      · rintro ⟨hf, rfl, rfl⟩
        obtain ⟨hf, hfs⟩ := List.forall_mem_cons.mp hf
        exact ⟨_, _, ⟨hf, rfl, rfl⟩, _, _, ⟨hfs, rfl, rfl⟩, rfl, rfl⟩

end LineGrammar
