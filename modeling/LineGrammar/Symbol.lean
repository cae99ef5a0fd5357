import LineGrammar.Text.Basic

/-! # Grammar symbols and their rendered form

A symbol is a terminal, which stands for its content, or a nonterminal, which names a rule.  Both
are rendered as one string: a nonterminal in angle brackets, a terminal as its content.  A terminal
that could be taken for something else is put in single quotes, so no rendered terminal starts
with an angle bracket (`head?_render_terminal`). -/

namespace LineGrammar

/-- A symbol of a context-free grammar. -/
inductive Symbol where
  | terminal (content : Text)
  | nonterminal (name : Text)
  deriving DecidableEq, Repr

/-- What a rule may be replaced by: its symbols, in order. -/
abbrev Alternative := List Symbol

namespace Symbol

def bracketed (name : Text) : Text := '<' :: (name ++ ['>'])

def enclosed (t : Text) : Text := '\'' :: (t ++ ['\''])

/-- Whether `t` consists of two single quotes with anything between them. -/
def isEnclosed : Text → Bool
  | '\'' :: t => t.getLast? == some '\''
  | _ => false

/-- Whether a terminal with the content `t` is rendered in single quotes: where its bare content
would look like a nonterminal, or like a terminal in single quotes. -/
def needsQuotes (t : Text) : Bool := t.head? == some '<' || isEnclosed t

/-- The string that stands for a symbol in a document. -/
def render : Symbol → Text
  | terminal content => if needsQuotes content then enclosed content else content
  | nonterminal name => bracketed name

theorem head?_render_terminal (content : Text) : (terminal content).render.head? ≠ some '<' := by
  by_cases h : needsQuotes content
  · simp [render, h, enclosed]
  · simp only [render, h]
    simp_all [needsQuotes]

end Symbol
end LineGrammar
