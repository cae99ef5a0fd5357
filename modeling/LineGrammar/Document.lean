import LineGrammar.Grammar.Basic
import LineGrammar.Json

/-! # The document of a grammar

A grammar as a JSON object with one member for each rule: its bracketed name, and the list of its
alternatives with their symbols rendered.  The rule `start` is always the one that leads to the
entry point: it is given to the object last, so a rule of that name in the grammar is replaced in
its place. -/

namespace LineGrammar

/-- The name of the rule that a document starts from. -/
def startName : Text := "start".toList

/-- What a document is made for. -/
structure DocumentOptions where
  entrypoint : Text := "module".toList
  indent : Text := [' ']

def Alternative.toJson (a : Alternative) : Json := .array (a.map fun s => .string s.render)

def Rule.toMember (r : Rule) : Text × Json :=
  (Symbol.bracketed r.name, .array (r.alternatives.map Alternative.toJson))

/-- The start rule as the member of an object. -/
def DocumentOptions.startMember (o : DocumentOptions) : Text × Json :=
  (Symbol.bracketed startName, .array [Alternative.toJson [.nonterminal o.entrypoint]])

namespace Grammar

variable (g : Grammar) (o : DocumentOptions)

def members : List (Text × Json) :=
  Json.setMembers (g.rules.toList.map Rule.toMember ++ [o.startMember])

def toJson : Json := .object (g.members o)

def document : Text := (g.toJson o).pretty o.indent 0

end Grammar
end LineGrammar
