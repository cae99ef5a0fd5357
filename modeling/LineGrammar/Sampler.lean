import LineGrammar.Error

/-! # Samplers and the dialogue with them

A sampler answers requests for strings that match a pattern, and may change with every request.
What is asked of a sampler is a `Dialogue`: a tree that branches on every answer and does not
depend on the sampler.  Two equal dialogues have the same result with every sampler, make the same
requests and leave the sampler in the same state.

There are samplers that do not answer every request: the program may end instead, and then the
dialogue has no result (`Dialogue.run?`). -/

namespace LineGrammar

/-- The values of `σ` answer requests for strings that match a pattern. -/
class Sampler (σ : Type) where
  /-- The answer to a request for `count` strings that match `pattern`, and the sampler after it. -/
  sample : σ → (pattern : Text) → (count : Nat) → Except PatternError (List Text) × σ

/-- The values of `σ` answer such requests as well, unless the program ends. -/
class PartialSampler (σ : Type) where
  /-- The answer and the sampler after it, if the program goes on. -/
  sample? : σ → (pattern : Text) → (count : Nat) → Option (Except PatternError (List Text) × σ)

/-- A computation that may ask a sampler for strings. -/
inductive Dialogue (α : Type) where
  | done (result : α)
  | ask (pattern : Text) (count : Nat) (next : Except PatternError (List Text) → Dialogue α)

namespace Dialogue

variable {α β : Type}

def bind : Dialogue α → (α → Dialogue β) → Dialogue β
  | done a, f => f a
  | ask p n next, f => ask p n fun answer => (next answer).bind f

instance : Monad Dialogue where
  pure := done
  bind := bind

theorem bind_done (d : Dialogue α) : d.bind done = d := by
  induction d with
  | done a => rfl
  | ask p n next ih => simp [bind, ih]

theorem bind_assoc {γ : Type} (d : Dialogue α) (f : α → Dialogue β) (g : β → Dialogue γ) :
    (d.bind f).bind g = d.bind fun a => (f a).bind g := by
  induction d with
  | done a => rfl
  | ask p n next ih => simp [bind, ih]

instance : LawfulMonad Dialogue := LawfulMonad.mk'
  Dialogue bind_done (fun _ _ => rfl) bind_assoc

/-- The result of a dialogue with the sampler `s` and the sampler after it, unless the program ends
on the way. -/
def run? {σ : Type} [PartialSampler σ] : Dialogue α → σ → Option (α × σ)
  | done a, s => some (a, s)
  | ask p n next, s => do
    let (answer, s) ← PartialSampler.sample? s p n
    (next answer).run? s

variable {σ : Type} [Sampler σ]

/-- The result of a dialogue with the sampler `s`, and the sampler after it. -/
def run : Dialogue α → σ → α × σ
  | done a, s => (a, s)
  | ask p n next, s => (next (Sampler.sample s p n).1).run (Sampler.sample s p n).2

/-- The requests that a dialogue makes of the sampler `s`, in order. -/
def requests : Dialogue α → σ → List (Text × Nat)
  | done _, _ => []
  | ask p n next, s =>
    (p, n) :: (next (Sampler.sample s p n).1).requests (Sampler.sample s p n).2

theorem run_bind (d : Dialogue α) (f : α → Dialogue β) (s : σ) :
    (d.bind f).run s = (f (d.run s).1).run (d.run s).2 := by
  induction d generalizing s with
  | done a => rfl
  | ask p n next ih => exact ih _ _

theorem requests_bind (d : Dialogue α) (f : α → Dialogue β) (s : σ) :
    (d.bind f).requests s = d.requests s ++ (f (d.run s).1).requests (d.run s).2 := by
  induction d generalizing s with
  | done a => rfl
  | ask p n next ih => simp [bind, requests, run, ih]

end Dialogue

/-- A step of a conversion: it may ask a sampler for strings, and it may fail. -/
abbrev Step := ExceptT ConversionError Dialogue

/-- Asks for strings that match a pattern.  If there are none, the conversion fails. -/
def Step.sample (pattern : Text) (count : Nat) : Step (List Text) :=
  Dialogue.ask pattern count fun answer => .done (answer.mapError .pattern)

end LineGrammar
