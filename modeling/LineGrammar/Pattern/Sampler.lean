import LineGrammar.Pattern.Fault
import LineGrammar.Pattern.Meaning
import LineGrammar.Pattern.Plan
import LineGrammar.Sampler

/-! # The sampler that draws strings

A sampler that reads each pattern as a regular expression and draws strings that match it from a
source of randomness.  A pattern that is refused leaves the source as it was, also when no string is
asked for.

There are patterns without an answer (`answer?`): they can be read, and drawing is set up for a
class that holds no character, with which the program ends. -/

namespace LineGrammar

/-- A sampler that draws from a source of randomness.  The pictures that errors show are made by the
reader of regular expressions. -/
structure RandomSampler (ρ : Type) where
  source : ρ
  /-- How often more than it has to a repetition without an upper bound may come. -/
  maxRepeat : Nat := 10
  /-- How the numbers of repetitions are kept. -/
  counting : Counting := .wrapping
  /-- The picture of each pattern that is not written as it should be. -/
  picture : Text → Text

namespace RandomSampler

variable {ρ : Type}

/-- The plan for the strings of a pattern, or why it is refused.  The program may end instead.  The
source has no part in it. -/
def prepare? (s : RandomSampler ρ) (pattern : Text) : Option (Except PatternFault Plan) :=
  match Pattern.ofText pattern with
  | .error fault => some (.error fault)
  | .ok p =>
    match p.plan s.counting s.maxRepeat with
    | .error .anchor => some (.error .anchor)
    | .error .emptyClass | .error .countOverflow => none
    | .ok plan => some (.ok plan)

variable [RandomSource ρ]

/-- Strings, which are given in reverse, and after them `count` strings of a plan. -/
def drawAll (counting : Counting) (plan : Plan) : Nat → List Text → ρ → List Text × ρ
  | 0, before, r => (before.reverse, r)
  | count + 1, before, r =>
    let (s, r) := plan.draw counting r
    drawAll counting plan count (s :: before) r

/-- The answer to a request and the sampler after it, unless the program ends. -/
def answer? (s : RandomSampler ρ) (pattern : Text) (count : Nat) :
    Option (Except PatternError (List Text) × RandomSampler ρ) :=
  match s.prepare? pattern with
  | some (.ok plan) =>
    let drawn := drawAll s.counting plan count [] s.source
    some (.ok drawn.1, { s with source := drawn.2 })
  | some (.error fault) =>
    some (.error { pattern, reason := fault.reason (s.picture pattern) }, s)
  | none => none

instance : PartialSampler (RandomSampler ρ) where
  sample? := answer?

end RandomSampler
end LineGrammar
