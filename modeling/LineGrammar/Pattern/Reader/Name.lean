import LineGrammar.Pattern.Fault
import LineGrammar.Unicode.Trait

/-! # Names of groups

The name of a group starts with a letter or an underscore and goes on with letters, numerals and a
few signs.  Its letters and numerals are those of Unicode 17, so some are younger than the tables of
properties. -/

namespace LineGrammar.Written

/-- Letters that are younger than the tables of properties. -/
def laterLetters : CharSet :=
  [(0x88f, 0x88f), (0xc5c, 0xc5c), (0xcdc, 0xcdc), (0xa7ce, 0xa7cf), (0xa7d2, 0xa7d2),
   (0xa7d4, 0xa7d4), (0xa7f1, 0xa7f1), (0x10940, 0x10959), (0x10ec5, 0x10ec7), (0x10efa, 0x10efb),
   (0x11b60, 0x11b67), (0x11db0, 0x11ddb), (0x16ea0, 0x16eb8), (0x16ebb, 0x16ed3),
   (0x16ff2, 0x16ff6), (0x187f8, 0x187ff), (0x18d09, 0x18d1e), (0x18d80, 0x18df2),
   (0x1e6c0, 0x1e6de), (0x1e6e0, 0x1e6f5), (0x1e6fe, 0x1e6ff), (0x2b73a, 0x2b73f),
   (0x2cea2, 0x2cead), (0x323b0, 0x33479)]

/-- Numerals that are younger than the tables of properties. -/
def laterNumerals : CharSet :=
  [(0x11de0, 0x11de9), (0x16ff4, 0x16ff6)]

def nameLetters : CharSet := .unions [Unicode.alphabetic, laterLetters]

def nameNumerals : CharSet :=
  .unions [Unicode.decimalNumbers, Unicode.letterNumbers, Unicode.otherNumbers, laterNumerals]

/-- Whether `c` may stand in the name of a group, of which it is the first character or not. -/
def isNameChar (first : Bool) (c : Char) : Bool :=
  c == '_' || nameLetters.has c ||
    (!first && (c == '.' || c == '[' || c == ']' || nameNumerals.has c))

/-- The name of a group, and the text after the bracket that ends it. -/
def readName (first : Bool) : Text → Except PatternFault (Text × Text)
  | [] => .error .nameUnclosed
  | c :: t =>
    if c = '>' then .ok ([], t)
    else if isNameChar first c then do
      let (name, rest) ← readName false t
      return (c :: name, rest)
    else .error .nameCharacter

end LineGrammar.Written
