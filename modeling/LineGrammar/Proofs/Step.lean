import LineGrammar.Sampler

/-! # Steps with a given sampler

What a step of a conversion comes to when it is run with a sampler.  `Step.Yields x s a s'` says
that `x` succeeds with the result `a` and leaves the sampler `s'`; a sequence of steps yields what
its parts yield one after another (`yields_bind`), so a proof about a step takes it apart without a
look at the dialogue behind it.

The requests of a sequence are those of its parts, up to the first that fails (`requests_bind`), and
an error may be put in other words without a change to anything else (`outcome_adapt`). -/

namespace LineGrammar.Step

variable {α β σ : Type} [Sampler σ]

/-- The outcome of a step with the sampler `s`, and the sampler after it. -/
def outcome (x : Step α) (s : σ) : Except ConversionError α × σ := (ExceptT.run x).run s

/-- The step `x` succeeds with the sampler `s`: its result is `a`, and the sampler is then `s'`. -/
def Yields (x : Step α) (s : σ) (a : α) (s' : σ) : Prop := outcome x s = (.ok a, s')

theorem outcome_pure (a : α) (s : σ) : outcome (pure a) s = (.ok a, s) := rfl

theorem outcome_throw (e : ConversionError) (s : σ) :
    outcome (throw e : Step α) s = (.error e, s) := rfl

theorem outcome_sample (pattern : Text) (count : Nat) (s : σ) :
    outcome (sample pattern count) s =
      ((Sampler.sample s pattern count).1.mapError .pattern, (Sampler.sample s pattern count).2) :=
  rfl

theorem outcome_mk (r : Except ConversionError α) (s : σ) :
    outcome (ExceptT.mk (pure r)) s = (r, s) := rfl

/-- The second step is taken where the first one succeeds. -/
theorem outcome_bind (x : Step α) (f : α → Step β) (s : σ) :
    outcome (x >>= f) s = match outcome x s with
      | (.ok a, s') => outcome (f a) s'
      | (.error e, s') => (.error e, s') := by
  have h : outcome (x >>= f) s =
      Dialogue.run (ExceptT.bindCont f (Dialogue.run x s).1) (Dialogue.run x s).2 :=
    Dialogue.run_bind x (ExceptT.bindCont f) s
  rw [h]
  unfold outcome ExceptT.run
  rcases Dialogue.run x s with ⟨_ | _, _⟩ <;> rfl

theorem yields_pure (a b : α) (s s' : σ) : Yields (pure a) s b s' ↔ b = a ∧ s' = s := by
  unfold Yields
  rw [outcome_pure, Prod.mk.injEq, Except.ok.injEq, eq_comm (a := a), eq_comm (a := s)]

theorem not_yields_throw (e : ConversionError) (a : α) (s s' : σ) :
    ¬ Yields (throw e : Step α) s a s' := by
  unfold Yields
  rw [outcome_throw, Prod.mk.injEq]
  rintro ⟨h, -⟩
  cases h

theorem yields_sample (pattern : Text) (count : Nat) (s s' : σ) (strings : List Text) :
    Yields (sample pattern count) s strings s' ↔
      Sampler.sample s pattern count = (.ok strings, s') := by
  unfold Yields
  rw [outcome_sample]
  obtain ⟨answer, s₁⟩ := Sampler.sample s pattern count
  cases answer with
  | error e =>
      have failed : (Except.error e : Except PatternError (List Text)).mapError .pattern =
          .error (.pattern e : ConversionError) := rfl
      simp [failed]
  | ok given =>
      have passed : (Except.ok given : Except PatternError (List Text)).mapError .pattern =
          (.ok given : Except ConversionError (List Text)) := rfl
      simp [passed]

theorem yields_mk (r : Except ConversionError α) (a : α) (s s' : σ) :
    Yields (ExceptT.mk (pure r)) s a s' ↔ r = .ok a ∧ s' = s := by
  unfold Yields
  rw [outcome_mk, Prod.mk.injEq, eq_comm (a := s)]

/-- A sequence of steps yields what its parts yield one after another. -/
theorem yields_bind (x : Step α) (f : α → Step β) (s s' : σ) (b : β) :
    Yields (x >>= f) s b s' ↔ ∃ a s₁, Yields x s a s₁ ∧ Yields (f a) s₁ b s' := by
  unfold Yields
  rw [outcome_bind]
  constructor
  · intro h
    split at h
    · rename_i a s₁ hx
      exact ⟨a, s₁, hx, h⟩
    · cases h
  · rintro ⟨a, s₁, hx, hf⟩
    rw [hx]
    exact hf

/-- After a step that succeeds, the second step decides the outcome. -/
theorem outcome_bind_of_yields {x : Step α} {s s₁ : σ} {a : α} (h : Yields x s a s₁)
    (f : α → Step β) : outcome (x >>= f) s = outcome (f a) s₁ := by
  rw [outcome_bind, h]

/-- After a step that fails, the second step is not taken. -/
theorem outcome_bind_of_error {x : Step α} {s s₁ : σ} {e : ConversionError}
    (h : outcome x s = (.error e, s₁)) (f : α → Step β) :
    outcome (x >>= f) s = (.error e, s₁) := by
  rw [outcome_bind, h]

theorem outcome_map (f : α → β) (x : Step α) (s : σ) :
    outcome (f <$> x) s = ((outcome x s).1.map f, (outcome x s).2) := by
  rw [map_eq_pure_bind, outcome_bind]
  rcases outcome x s with ⟨_ | _, _⟩ <;> rfl

theorem yields_map (f : α → β) (x : Step α) (s s' : σ) (b : β) :
    Yields (f <$> x) s b s' ↔ ∃ a, Yields x s a s' ∧ b = f a := by
  rw [map_eq_pure_bind, yields_bind]
  simp only [yields_pure]
  constructor
  · rintro ⟨a, s₁, hx, rfl, rfl⟩
    exact ⟨a, hx, rfl⟩
  · rintro ⟨a, hx, rfl⟩
    exact ⟨a, s', hx, rfl, rfl⟩

/-! ### Requests -/

def requests (x : Step α) (s : σ) : List (Text × Nat) := (ExceptT.run x).requests s

theorem requests_pure (a : α) (s : σ) : requests (pure a) s = [] := rfl

theorem requests_sample (pattern : Text) (count : Nat) (s : σ) :
    requests (sample pattern count) s = [(pattern, count)] := rfl

theorem requests_mk (r : Except ConversionError α) (s : σ) :
    requests (ExceptT.mk (pure r)) s = [] := rfl

/-- The second step makes its requests after the first one, if that succeeds. -/
theorem requests_bind (x : Step α) (f : α → Step β) (s : σ) :
    requests (x >>= f) s = requests x s ++ match outcome x s with
      | (.ok a, s') => requests (f a) s'
      | (.error _, _) => [] := by
  have h : requests (x >>= f) s =
      requests x s ++ Dialogue.requests (ExceptT.bindCont f (Dialogue.run x s).1)
        (Dialogue.run x s).2 :=
    Dialogue.requests_bind x (ExceptT.bindCont f) s
  rw [h]
  unfold outcome ExceptT.run
  rcases Dialogue.run x s with ⟨_ | _, _⟩ <;> rfl

theorem requests_bind_of_yields {x : Step α} {s s₁ : σ} {a : α} (h : Yields x s a s₁)
    (f : α → Step β) : requests (x >>= f) s = requests x s ++ requests (f a) s₁ := by
  rw [requests_bind, h]

theorem requests_bind_of_error {x : Step α} {s s₁ : σ} {e : ConversionError}
    (h : outcome x s = (.error e, s₁)) (f : α → Step β) :
    requests (x >>= f) s = requests x s := by
  rw [requests_bind, h]
  exact List.append_nil _

theorem requests_map (f : α → β) (x : Step α) (s : σ) : requests (f <$> x) s = requests x s := by
  rw [map_eq_pure_bind, requests_bind]
  rcases outcome x s with ⟨_ | _, _⟩ <;> exact List.append_nil _

theorem run_bind (x : Step α) (f : α → Step β) :
    ExceptT.run (x >>= f) = (ExceptT.run x).bind (ExceptT.bindCont f) := rfl

theorem run_adapt (w : ConversionError → ConversionError) (x : Step α) :
    ExceptT.run (ExceptT.adapt w x) = (ExceptT.run x).bind fun r => .done (r.mapError w) := rfl

theorem adapt_pure (w : ConversionError → ConversionError) (a : α) :
    ExceptT.adapt w (pure a : Step α) = pure a := rfl

theorem adapt_bind (w : ConversionError → ConversionError) (x : Step α) (f : α → Step β) :
    ExceptT.adapt w (x >>= f) = ExceptT.adapt w x >>= fun a => ExceptT.adapt w (f a) := by
  apply ExceptT.ext
  rw [run_adapt, run_bind, run_bind, run_adapt, Dialogue.bind_assoc, Dialogue.bind_assoc]
  congr 1
  funext r
  cases r <;> rfl

theorem outcome_adapt (w : ConversionError → ConversionError) (x : Step α) (s : σ) :
    outcome (ExceptT.adapt w x) s = ((outcome x s).1.mapError w, (outcome x s).2) := by
  unfold outcome
  rw [run_adapt, Dialogue.run_bind]
  rfl

theorem requests_adapt (w : ConversionError → ConversionError) (x : Step α) (s : σ) :
    requests (ExceptT.adapt w x) s = requests x s := by
  unfold requests
  rw [run_adapt, Dialogue.requests_bind]
  exact List.append_nil _

end LineGrammar.Step
