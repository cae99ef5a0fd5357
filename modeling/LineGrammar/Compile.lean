import LineGrammar.Alternative
import LineGrammar.Grammar.Basic
import LineGrammar.RuleLine

/-! # From source text to a grammar

A source adds its lines to a grammar, one after another: each line is taken apart, its tokens are
read from left to right, and its alternatives are added to the rule of its label, which is declared
if it is new.  The first error ends the walk, and no token after it is read.

A workbench holds a grammar together with the settings and the sampler for the sources to come. -/

namespace LineGrammar

structure Settings where
  mode : Mode := .plain
  spacing : Bool := false
  /-- How many strings a pattern fans out into; asking for none asks for one. -/
  samples : Nat := 15
  deriving DecidableEq, Repr

variable (settings : Settings)

/-- The label of a line and the alternatives that it adds. -/
def compileLine (n : Nat) (line : Text) : Step (Text × List Alternative) := do
  let rule ← ExceptT.mk (pure (RuleLine.parse n line))
  let parts ← Part.ofTokens settings.mode settings.samples rule.tokens
  return (rule.label, Alternative.ofParts settings.spacing parts)

/-- The grammar `g` with the lines added, of which the first has the number `n`. -/
def compileLines (n : Nat) : List Text → Grammar → Step Grammar
  | [], g => return g
  | line :: lines, g => do
    let (label, alternatives) ← compileLine settings n line
    compileLines (n + 1) lines (g.extend label alternatives)

def compile (source : Text) (g : Grammar) : Step Grammar :=
  compileLines settings 1 (Text.lines source) g

/-! ### Workbenches -/

/-- A grammar in the making, with the settings and the sampler for the sources to come. -/
structure Workbench (σ : Type) where
  grammar : Grammar := .empty
  settings : Settings := {}
  sampler : σ

/-- What can be done at a workbench. -/
inductive Action (σ : Type) where
  | mode (mode : Mode)
  | spacing (spacing : Bool)
  | samples (samples : Nat)
  | sampler (sampler : σ)
  | source (source : Text)

namespace Workbench

variable {σ : Type} [Sampler σ] (w : Workbench σ)

/-- Adds a source.  A source with an error changes the sampler only. -/
def addSource (source : Text) : Except ConversionError Unit × Workbench σ :=
  match (compile w.settings source w.grammar).run.run w.sampler with
  | (.ok grammar, sampler) => (.ok (), { w with grammar, sampler })
  | (.error e, sampler) => (.error e, { w with sampler })

def perform : Action σ → Except ConversionError Unit × Workbench σ
  | .mode mode => (.ok (), { w with settings.mode := mode })
  | .spacing spacing => (.ok (), { w with settings.spacing := spacing })
  | .samples samples => (.ok (), { w with settings.samples := samples })
  | .sampler sampler => (.ok (), { w with sampler })
  | .source source => w.addSource source

/-- Performs actions one after another, up to the first error. -/
def performAll : List (Action σ) → Workbench σ → Except ConversionError Unit × Workbench σ
  | [], w => (.ok (), w)
  | a :: as, w =>
    match w.perform a with
    | (.ok (), w) => performAll as w
    | (.error e, w) => (.error e, w)

end Workbench
end LineGrammar
