import LineGrammar.Sampler
import LineGrammar.Symbol

/-! # Tokens of a rule

A token in double quotes is a terminal and any other one a nonterminal, save that a token that
starts with `r` may hold a pattern.  The mode says whether it does, and whether one string that
matches the pattern takes its place or several strings do. -/

namespace LineGrammar

/-- What becomes of the tokens that start with `r`. -/
inductive Mode where
  | plain
  /-- They are patterns, each of which becomes a string that matches it. -/
  | single
  /-- They are patterns, each of which becomes several strings that match it. -/
  | multi
  deriving DecidableEq, Repr

/-- What a token becomes. -/
inductive Part where
  | symbol (s : Symbol)
  /-- Strings that become alternatives of their own. -/
  | fanOut (strings : List Text)
  deriving DecidableEq, Repr

/-- The pattern that a token holds if it is taken for one: what follows the `r`. -/
def pattern? : Text → Option Text
  | [] => none
  | c :: t => if c = 'r' then some t else none

/-- The symbol of a token that is not taken for a pattern.  An empty token is an empty terminal,
and the closing quote of a terminal may be missing. -/
def Symbol.ofToken : Text → Symbol
  | [] => .terminal []
  | c :: t => if c = '"' then .terminal (Text.stripLast '"' t) else .nonterminal (c :: t)

/-- A string that fans out, without an `r` at its end and then without the quotes at both ends. -/
def cleanFanOut (s : Text) : Text := Text.trimWhile (· == '"') (Text.stripLast 'r' s)

namespace Part

/-- A pattern's place is taken by one string, without an `r` at its start. -/
def ofPattern (pattern : Text) : Step Part := do
  match ← Step.sample pattern 1 with
  | [] => throw (.pattern { pattern, reason := "sampler returned no strings".toList })
  | s :: _ => return .symbol (.terminal (Text.stripFirst 'r' s))

/-- A pattern's place is taken by `samples` strings, of which at least one is asked for. -/
def ofPatternFan (samples : Nat) (pattern : Text) : Step Part := do
  let strings ← Step.sample pattern (max samples 1)
  return .fanOut (strings.map cleanFanOut)

/-- What a token becomes; a line ending at its end does not count. -/
def ofToken (mode : Mode) (samples : Nat) (token : Text) : Step Part :=
  let token := Text.chomp token
  match mode, pattern? token with
  | .single, some pattern => ofPattern pattern
  | .multi, some pattern => ofPatternFan samples pattern
  | _, _ => return .symbol (.ofToken token)

/-- What the tokens of a line become, read from left to right. -/
def ofTokens (mode : Mode) (samples : Nat) : List Text → Step (List Part)
  | [] => return []
  | token :: tokens => do
    let part ← ofToken mode samples token
    let parts ← ofTokens mode samples tokens
    return part :: parts

def symbol? : Part → Option Symbol
  | symbol s => some s
  | fanOut _ => none

def fanOut? : Part → Option (List Text)
  | symbol _ => none
  | fanOut strings => some strings

end Part
end LineGrammar
