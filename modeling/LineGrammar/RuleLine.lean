import LineGrammar.Error
import LineGrammar.Text.Blank

/-! # Lines of a grammar in text form

A line has the form `label: token token ...`.  The first colon that is followed by a space ends the
label, which must not be blank; the rest is cut at every space into tokens, of which the last one
still carries the line ending. -/

namespace LineGrammar

/-- A line taken apart: the label without the blanks around it, and the tokens. -/
structure RuleLine where
  label : Text
  tokens : List Text
  deriving DecidableEq, Repr

/-- The text before and after the first colon that is followed by a space. -/
def splitLabel : Text → Option (Text × Text)
  | [] => none
  | [_] => none
  | c :: d :: t =>
    if c = ':' ∧ d = ' ' then some ([], t)
    else (splitLabel (d :: t)).map fun (before, after) => (c :: before, after)

namespace RuleLine

/-- A line, given with its ending, taken apart. -/
def parse? (line : Text) : Option RuleLine := do
  let (before, body) ← splitLabel line
  let label := Text.trim before
  if label.isEmpty then none else some { label, tokens := body.splitOn ' ' }

/-- The line with the number `n` taken apart.  One that is no rule is reported without its line
ending. -/
def parse (n : Nat) (line : Text) : Except ConversionError RuleLine :=
  match parse? line with
  | some rule => .ok rule
  | none => .error (.malformedRule n (Text.chomp line))

end RuleLine
end LineGrammar
