import LineGrammar.Text.Basic

/-! # Quoted text

A text between double quotes, in which the quote, the backslash, NUL, tab, newline and carriage
return are written with a backslash, and the characters that a predicate picks out as hidden are
written by their code point in braces.  Every other character stands for itself. -/

namespace LineGrammar.Text

/-- How `c` is written between the quotes. -/
def escape (hidden : Char → Bool) (c : Char) : Text :=
  if c = '"' then ['\\', '"']
  else if c = '\\' then ['\\', '\\']
  else if c = '\x00' then ['\\', '0']
  else if c = '\t' then ['\\', 't']
  else if c = '\n' then ['\\', 'n']
  else if c = '\r' then ['\\', 'r']
  else if hidden c then ['\\', 'u', '{'] ++ Nat.toDigits 16 c.toNat ++ ['}']
  else [c]

def quoted (hidden : Char → Bool) (t : Text) : Text := '"' :: (t.flatMap (escape hidden) ++ ['"'])

end LineGrammar.Text
