import LineGrammar.Token

/-! # Alternatives of a line

The parts of a line become one alternative, unless one of them fans out: then each string of each
fan-out is an alternative of its own and the other parts are dropped.

Spacing puts a space between any two symbols of an alternative and turns each backslash followed by
`n` in its terminals into a newline.  An alternative of fewer than two symbols stays as it is. -/

namespace LineGrammar

/-- `t` with a newline for each backslash followed by `n`. -/
def unescapeNewlines : Text → Text
  | [] => []
  | [c] => [c]
  | c :: d :: t =>
    if c = '\\' ∧ d = 'n' then '\n' :: unescapeNewlines t
    else c :: unescapeNewlines (d :: t)

/-- A terminal with its newlines in place; a nonterminal stays as it is. -/
def Symbol.unescaped : Symbol → Symbol
  | terminal content => terminal (unescapeNewlines content)
  | nonterminal name => nonterminal name

namespace Alternative

/-- The alternative with spaces between its symbols. -/
def spaced (a : Alternative) : Alternative :=
  if a.length ≤ 1 then a else (a.map Symbol.unescaped).intersperse (.terminal [' '])

def ofParts (spacing : Bool) (parts : List Part) : List Alternative :=
  match parts.filterMap Part.fanOut? with
  | [] =>
    let symbols := parts.filterMap Part.symbol?
    [if spacing then spaced symbols else symbols]
  | fans => fans.flatten.map fun s => [.terminal s]

end Alternative
end LineGrammar
