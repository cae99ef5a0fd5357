import LineGrammar.Grammar.Basic
import LineGrammar.Text.Hidden
import LineGrammar.Text.Quoted

/-! # Grammars as a listing

One line for each rule: the name in angle brackets, an equals sign, and the alternatives as a list
of lists of quoted symbols, such as `<name> = [["<other>", "x"], []]`. -/

namespace LineGrammar

/-- The items between square brackets, separated by a comma and a space. -/
def bracketList (items : List Text) : Text := '[' :: (", ".toList.intercalate items ++ [']'])

def Alternative.listing (a : Alternative) : Text :=
  bracketList (a.map fun s => Text.quoted Text.isHidden s.render)

/-- The line of a rule, with the newline that ends it. -/
def Rule.listing (r : Rule) : Text :=
  Symbol.bracketed r.name ++ " = ".toList ++ bracketList (r.alternatives.map Alternative.listing) ++
    ['\n']

def Grammar.listing (g : Grammar) : Text := g.rules.toList.flatMap Rule.listing

end LineGrammar
