import LineGrammar.Unicode.Category.Letter
import LineGrammar.Unicode.Category.Mark
import LineGrammar.Unicode.Category.Symbol
import LineGrammar.Unicode.Value

/-! # General categories

Each character belongs to one general category.  A name may stand for several categories together;
`categoryNames` lists what each name stands for. -/

namespace LineGrammar.Unicode

inductive Category where
  | uppercaseLetter | lowercaseLetter | titlecaseLetter | modifierLetter | otherLetter
  | nonspacingMark | spacingMark | enclosingMark
  | decimalNumber | letterNumber | otherNumber
  | connectorPunctuation | dashPunctuation | openPunctuation | closePunctuation
  | initialPunctuation | finalPunctuation | otherPunctuation
  | mathSymbol | currencySymbol | modifierSymbol | otherSymbol
  | spaceSeparator | lineSeparator | paragraphSeparator
  | control | format | privateUse | surrogate | unassigned
  deriving DecidableEq, Repr

def letterSets : List CharSet :=
  [uppercaseLetters, lowercaseLetters, titlecaseLetters, modifierLetters, otherLetters]

def markSets : List CharSet := [nonspacingMarks, spacingMarks, enclosingMarks]

/-- The characters that belong to a category other than that of the unassigned ones. -/
def assigned : CharSet :=
  CharSet.unions
    (letterSets ++ markSets ++
      [decimalNumbers, letterNumbers, otherNumbers, connectorPunctuations, dashPunctuations,
        openPunctuations, closePunctuations, initialPunctuations, finalPunctuations,
        otherPunctuations, mathSymbols, currencySymbols, modifierSymbols, otherSymbols,
        spaceSeparators, lineSeparators, paragraphSeparators, controls, formats, privateUse])

namespace Category

/-- The characters of a category.  A surrogate is no character. -/
def members : Category → CharSet
  | uppercaseLetter => uppercaseLetters
  | lowercaseLetter => lowercaseLetters
  | titlecaseLetter => titlecaseLetters
  | modifierLetter => modifierLetters
  | otherLetter => otherLetters
  | nonspacingMark => nonspacingMarks
  | spacingMark => spacingMarks
  | enclosingMark => enclosingMarks
  | decimalNumber => decimalNumbers
  | letterNumber => letterNumbers
  | otherNumber => otherNumbers
  | connectorPunctuation => connectorPunctuations
  | dashPunctuation => dashPunctuations
  | openPunctuation => openPunctuations
  | closePunctuation => closePunctuations
  | initialPunctuation => initialPunctuations
  | finalPunctuation => finalPunctuations
  | otherPunctuation => otherPunctuations
  | mathSymbol => mathSymbols
  | currencySymbol => currencySymbols
  | modifierSymbol => modifierSymbols
  | otherSymbol => otherSymbols
  | spaceSeparator => spaceSeparators
  | lineSeparator => lineSeparators
  | paragraphSeparator => paragraphSeparators
  | control => controls
  | format => formats
  | privateUse => Unicode.privateUse
  | surrogate => []
  | unassigned => assigned.complement

/-- The names of the categories and of groups of them, each with the categories that it stands
for. -/
def names : List (List String × List Category) :=
  [(["Uppercase_Letter", "Lu"], [uppercaseLetter]),
   (["Lowercase_Letter", "Ll"], [lowercaseLetter]),
   (["Titlecase_Letter", "Lt"], [titlecaseLetter]),
   (["Cased_Letter", "LC"], [uppercaseLetter, lowercaseLetter, titlecaseLetter]),
   (["Modifier_Letter", "Lm"], [modifierLetter]),
   (["Other_Letter", "Lo"], [otherLetter]),
   (["Letter", "L"],
     [uppercaseLetter, lowercaseLetter, titlecaseLetter, modifierLetter, otherLetter]),
   (["Nonspacing_Mark", "Mn"], [nonspacingMark]),
   (["Spacing_Mark", "Mc"], [spacingMark]),
   (["Enclosing_Mark", "Me"], [enclosingMark]),
   (["Mark", "M", "Combining_Mark"], [nonspacingMark, spacingMark, enclosingMark]),
   (["Decimal_Number", "Nd", "digit"], [decimalNumber]),
   (["Letter_Number", "Nl"], [letterNumber]),
   (["Other_Number", "No"], [otherNumber]),
   (["Number", "N"], [decimalNumber, letterNumber, otherNumber]),
   (["Connector_Punctuation", "Pc"], [connectorPunctuation]),
   (["Dash_Punctuation", "Pd"], [dashPunctuation]),
   (["Open_Punctuation", "Ps"], [openPunctuation]),
   (["Close_Punctuation", "Pe"], [closePunctuation]),
   (["Initial_Punctuation", "Pi"], [initialPunctuation]),
   (["Final_Punctuation", "Pf"], [finalPunctuation]),
   (["Other_Punctuation", "Po"], [otherPunctuation]),
   (["Punctuation", "P", "punct"],
     [connectorPunctuation, dashPunctuation, openPunctuation, closePunctuation,
       initialPunctuation, finalPunctuation, otherPunctuation]),
   (["Math_Symbol", "Sm"], [mathSymbol]),
   (["Currency_Symbol", "Sc"], [currencySymbol]),
   (["Modifier_Symbol", "Sk"], [modifierSymbol]),
   (["Other_Symbol", "So"], [otherSymbol]),
   (["Symbol", "S"], [mathSymbol, currencySymbol, modifierSymbol, otherSymbol]),
   (["Space_Separator", "Zs"], [spaceSeparator]),
   (["Line_Separator", "Zl"], [lineSeparator]),
   (["Paragraph_Separator", "Zp"], [paragraphSeparator]),
   (["Separator", "Z"], [spaceSeparator, lineSeparator, paragraphSeparator]),
   (["Control", "Cc", "cntrl"], [control]),
   (["Format", "Cf"], [format]),
   (["Surrogate", "Cs"], [surrogate]),
   (["Private_Use", "Co"], [privateUse]),
   (["Unassigned", "Cn"], [unassigned]),
   (["Other", "C"], [control, format, surrogate, privateUse, unassigned])]

end Category

/-- The characters of a general category, or of several ones that a name stands for together.  The
name is given as it is compared.  Three more names stand for all characters, for the assigned ones
and for those of ASCII. -/
def categoryMembers? (name : Text) : Option CharSet :=
  if name = "any".toList then some CharSet.all
  else if name = "assigned".toList then some assigned
  else if name = "ascii".toList then some [(0x00, 0x7f)]
  else (Category.names.find? fun n => isAmong name n.1).map fun n =>
    CharSet.unions (n.2.map Category.members)

end LineGrammar.Unicode
