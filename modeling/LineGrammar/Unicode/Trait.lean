import LineGrammar.Unicode.CaseFold
import LineGrammar.Unicode.Category
import LineGrammar.Unicode.Trait.Table

/-! # Traits

A trait is a property that a character has or does not have.  Some traits have a table of their own;
the others follow from general categories and from other traits, and are defined by what they
follow from. -/

namespace LineGrammar.Unicode

open CharSet

/-! ### Case -/

def lowercase : CharSet := unions [lowercaseLetters, otherLowercase]

def uppercase : CharSet := unions [uppercaseLetters, otherUppercase]

def cased : CharSet := unions [lowercase, uppercase, titlecaseLetters]

def caseIgnorable : CharSet :=
  unions [nonspacingMarks, enclosingMarks, formats, modifierLetters, modifierSymbols,
    [(0x27, 0x27), (0x2e, 0x2e), (0x3a, 0x3a), (0xb7, 0xb7), (0x387, 0x387), (0x55f, 0x55f),
     (0x5f4, 0x5f4), (0x2018, 0x2019), (0x2024, 0x2024), (0x2027, 0x2027), (0xfe13, 0xfe13),
     (0xfe52, 0xfe52), (0xfe55, 0xfe55), (0xff07, 0xff07), (0xff0e, 0xff0e), (0xff1a, 0xff1a)]]

/-- The characters that fold to another one. -/
def foldSources : CharSet := foldPairs.map fun (c, _) => (c, c)

/-- The characters that another one folds to. -/
def foldTargets : CharSet := foldPairs.map fun (_, f) => (f, f)

/-- The property `Changes_When_Casefolded`: characters that fold to another one or to several ones,
also after they are taken apart. -/
def changesWhenCasefolded : CharSet :=
  unions [difference foldSources [(0x1fbe, 0x1fbe), (0x1fd3, 0x1fd3), (0x1fe3, 0x1fe3)],
    [(0xdf, 0xdf), (0x130, 0x130), (0x149, 0x149), (0x587, 0x587), (0x1e9a, 0x1e9a),
     (0x1f80, 0x1f87), (0x1f90, 0x1f97), (0x1fa0, 0x1fa7), (0x1fb2, 0x1fb4), (0x1fb7, 0x1fb7),
     (0x1fc2, 0x1fc4), (0x1fc7, 0x1fc7), (0x1ff2, 0x1ff4), (0x1ff7, 0x1ff7), (0xfb00, 0xfb04),
     (0xfb06, 0xfb06), (0xfb13, 0xfb17)]]

/-- The small letters that fold to another one, and those that look like one. -/
def smallFoldSources : CharSet :=
  [(0xb5, 0xb5), (0x17f, 0x17f), (0x345, 0x345), (0x3c2, 0x3c2), (0x3d0, 0x3d1), (0x3d5, 0x3d6),
   (0x3f0, 0x3f1), (0x3f5, 0x3f5), (0x13f8, 0x13fd), (0x1c80, 0x1c88), (0x1e9b, 0x1e9b),
   (0x1fbe, 0x1fbe), (0x1fd3, 0x1fd3), (0x1fe3, 0x1fe3), (0xab70, 0xabbf), (0xfb05, 0xfb05)]

/-- The capital letters of Cherokee, which fold to themselves. -/
def cherokeeCapitals : CharSet := [(0x13a0, 0x13f5)]

def changesWhenLowercased : CharSet :=
  unions [difference foldSources smallFoldSources, cherokeeCapitals, [(0x130, 0x130)]]

/-- Letters without a capital form of one character, or whose capital form has another small
form. -/
def oddSmallLetters : CharSet :=
  [(0x131, 0x131), (0x149, 0x149), (0x1f0, 0x1f0), (0x587, 0x587), (0x1e96, 0x1e9a),
   (0x1f50, 0x1f50), (0x1f52, 0x1f52), (0x1f54, 0x1f54), (0x1f56, 0x1f56), (0x1fb2, 0x1fb2),
   (0x1fb4, 0x1fb4), (0x1fb6, 0x1fb7), (0x1fc2, 0x1fc2), (0x1fc4, 0x1fc4), (0x1fc6, 0x1fc7),
   (0x1fd2, 0x1fd2), (0x1fd6, 0x1fd7), (0x1fe2, 0x1fe2), (0x1fe4, 0x1fe4), (0x1fe6, 0x1fe7),
   (0x1ff2, 0x1ff2), (0x1ff4, 0x1ff4), (0x1ff6, 0x1ff7), (0xfb00, 0xfb04), (0xfb13, 0xfb17)]

/-- The small letters of Georgian, which stay as they are in titles. -/
def georgianLetters : CharSet := [(0x10d0, 0x10fa), (0x10fd, 0x10ff)]

def changesWhenUppercased : CharSet :=
  unions [difference foldTargets cherokeeCapitals, smallFoldSources, oddSmallLetters,
    titlecaseLetters]

def changesWhenTitlecased : CharSet :=
  unions [difference (difference changesWhenUppercased georgianLetters) titlecaseLetters,
    [(0x1c4, 0x1c4), (0x1c7, 0x1c7), (0x1ca, 0x1ca), (0x1f1, 0x1f1)]]

def changesWhenCasemapped : CharSet :=
  unions [changesWhenLowercased, changesWhenUppercased, changesWhenTitlecased]

/-! ### Words and names -/

def alphabetic : CharSet := unions (letterSets ++ [letterNumbers, otherAlphabetic])

/-- The characters that make up words. -/
def wordCharacters : CharSet :=
  unions (markSets ++ [alphabetic, decimalNumbers, connectorPunctuations, joinControl])

def idStart : CharSet :=
  difference (unions (letterSets ++ [letterNumbers, otherIdStart]))
    (unions [patternSyntax, patternWhiteSpace])

def idContinue : CharSet :=
  difference
    (unions [idStart, nonspacingMarks, spacingMarks, decimalNumbers, connectorPunctuations,
      otherIdContinue])
    (unions [patternSyntax, patternWhiteSpace])

/-- The letters of names that are not letters of names in all normal forms. -/
def unstableIdContinue : CharSet :=
  [(0x37a, 0x37a), (0x309b, 0x309c), (0xfc5e, 0xfc63), (0xfdfa, 0xfdfb)] ++
    alternating [(0xfe70, 0xfe7e)]

def xidContinue : CharSet := difference idContinue unstableIdContinue

def xidStart : CharSet :=
  difference idStart
    (unions [unstableIdContinue, [(0xe33, 0xe33), (0xeb3, 0xeb3), (0xff9e, 0xff9f)]])

def math : CharSet := unions [mathSymbols, otherMath]

/-! ### Text segmentation -/

def defaultIgnorable : CharSet :=
  difference (unions [otherDefaultIgnorable, formats, variationSelector])
    (unions [prependedConcatenationMark, [(0xfff9, 0xfffb), (0x13430, 0x13440)]])

def graphemeExtend : CharSet := unions [enclosingMarks, nonspacingMarks, otherGraphemeExtend]

def graphemeBase : CharSet :=
  difference assigned
    (unions [controls, formats, privateUse, lineSeparators, paragraphSeparators, graphemeExtend])

inductive Trait where
  | alphabetic | asciiHexDigit | bidiControl | bidiMirrored | caseIgnorable | cased
  | changesWhenCasefolded | changesWhenCasemapped | changesWhenLowercased | changesWhenTitlecased
  | changesWhenUppercased | dash | defaultIgnorable | deprecated | diacritic | emoji
  | emojiComponent | emojiModifier | emojiModifierBase | emojiPresentation | extendedPictographic
  | extender | graphemeBase | graphemeExtend | graphemeLink | hexDigit | hyphen
  | idCompatMathContinue | idCompatMathStart | idContinue | idStart | ideographic
  | idsBinaryOperator | idsTrinaryOperator | idsUnaryOperator | joinControl
  | logicalOrderException | lowercase | math | modifierCombiningMark | noncharacter
  | otherAlphabetic | otherDefaultIgnorable | otherGraphemeExtend | otherIdContinue | otherIdStart
  | otherLowercase | otherMath | otherUppercase | patternSyntax | patternWhiteSpace
  | prependedConcatenationMark | quotationMark | radical | regionalIndicator | sentenceTerminal
  | softDotted | terminalPunctuation | unifiedIdeograph | uppercase | variationSelector
  | whiteSpace | xidContinue | xidStart
  deriving DecidableEq, Repr

namespace Trait

def members : Trait → CharSet
  | alphabetic => Unicode.alphabetic
  | asciiHexDigit => Unicode.asciiHexDigit
  | bidiControl => Unicode.bidiControl
  | bidiMirrored => Unicode.bidiMirrored
  | caseIgnorable => Unicode.caseIgnorable
  | cased => Unicode.cased
  | changesWhenCasefolded => Unicode.changesWhenCasefolded
  | changesWhenCasemapped => Unicode.changesWhenCasemapped
  | changesWhenLowercased => Unicode.changesWhenLowercased
  | changesWhenTitlecased => Unicode.changesWhenTitlecased
  | changesWhenUppercased => Unicode.changesWhenUppercased
  | dash => Unicode.dash
  | defaultIgnorable => Unicode.defaultIgnorable
  | deprecated => Unicode.deprecated
  | diacritic => Unicode.diacritic
  | emoji => Unicode.emoji
  | emojiComponent => Unicode.emojiComponent
  | emojiModifier => Unicode.emojiModifier
  | emojiModifierBase => Unicode.emojiModifierBase
  | emojiPresentation => Unicode.emojiPresentation
  | extendedPictographic => Unicode.extendedPictographic
  | extender => Unicode.extender
  | graphemeBase => Unicode.graphemeBase
  | graphemeExtend => Unicode.graphemeExtend
  | graphemeLink => Unicode.graphemeLink
  | hexDigit => Unicode.hexDigit
  | hyphen => Unicode.hyphen
  | idCompatMathContinue => Unicode.idCompatMathContinue
  | idCompatMathStart => Unicode.idCompatMathStart
  | idContinue => Unicode.idContinue
  | idStart => Unicode.idStart
  | ideographic => Unicode.ideographic
  | idsBinaryOperator => Unicode.idsBinaryOperator
  | idsTrinaryOperator => Unicode.idsTrinaryOperator
  | idsUnaryOperator => Unicode.idsUnaryOperator
  | joinControl => Unicode.joinControl
  | logicalOrderException => Unicode.logicalOrderException
  | lowercase => Unicode.lowercase
  | math => Unicode.math
  | modifierCombiningMark => Unicode.modifierCombiningMark
  | noncharacter => Unicode.noncharacter
  | otherAlphabetic => Unicode.otherAlphabetic
  | otherDefaultIgnorable => Unicode.otherDefaultIgnorable
  | otherGraphemeExtend => Unicode.otherGraphemeExtend
  | otherIdContinue => Unicode.otherIdContinue
  | otherIdStart => Unicode.otherIdStart
  | otherLowercase => Unicode.otherLowercase
  | otherMath => Unicode.otherMath
  | otherUppercase => Unicode.otherUppercase
  | patternSyntax => Unicode.patternSyntax
  | patternWhiteSpace => Unicode.patternWhiteSpace
  | prependedConcatenationMark => Unicode.prependedConcatenationMark
  | quotationMark => Unicode.quotationMark
  | radical => Unicode.radical
  | regionalIndicator => Unicode.regionalIndicator
  | sentenceTerminal => Unicode.sentenceTerminal
  | softDotted => Unicode.softDotted
  | terminalPunctuation => Unicode.terminalPunctuation
  | unifiedIdeograph => Unicode.unifiedIdeograph
  | uppercase => Unicode.uppercase
  | variationSelector => Unicode.variationSelector
  | whiteSpace => Unicode.whiteSpace
  | xidContinue => Unicode.xidContinue
  | xidStart => Unicode.xidStart

def names : List (Trait × List String) :=
  [(.alphabetic, ["Alphabetic", "Alpha"]),
   (.asciiHexDigit, ["ASCII_Hex_Digit", "AHex"]),
   (.bidiControl, ["Bidi_Control", "Bidi_C"]),
   (.bidiMirrored, ["Bidi_Mirrored", "Bidi_M"]),
   (.caseIgnorable, ["Case_Ignorable", "CI"]),
   (.cased, ["Cased"]),
   (.changesWhenCasefolded, ["Changes_When_Casefolded", "CWCF"]),
   (.changesWhenCasemapped, ["Changes_When_Casemapped", "CWCM"]),
   (.changesWhenLowercased, ["Changes_When_Lowercased", "CWL"]),
   (.changesWhenTitlecased, ["Changes_When_Titlecased", "CWT"]),
   (.changesWhenUppercased, ["Changes_When_Uppercased", "CWU"]),
   (.dash, ["Dash"]),
   (.defaultIgnorable, ["Default_Ignorable_Code_Point", "DI"]),
   (.deprecated, ["Deprecated", "Dep"]),
   (.diacritic, ["Diacritic", "Dia"]),
   (.emoji, ["Emoji"]),
   (.emojiComponent, ["Emoji_Component", "EComp"]),
   (.emojiModifier, ["Emoji_Modifier", "EMod"]),
   (.emojiModifierBase, ["Emoji_Modifier_Base", "EBase"]),
   (.emojiPresentation, ["Emoji_Presentation", "EPres"]),
   (.extendedPictographic, ["Extended_Pictographic", "ExtPict"]),
   (.extender, ["Extender", "Ext"]),
   (.graphemeBase, ["Grapheme_Base", "Gr_Base"]),
   (.graphemeExtend, ["Grapheme_Extend", "Gr_Ext"]),
   (.graphemeLink, ["Grapheme_Link", "Gr_Link"]),
   (.hexDigit, ["Hex_Digit", "Hex"]),
   (.hyphen, ["Hyphen"]),
   (.idCompatMathContinue, ["ID_Compat_Math_Continue"]),
   (.idCompatMathStart, ["ID_Compat_Math_Start"]),
   (.idContinue, ["ID_Continue", "IDC"]),
   (.idStart, ["ID_Start", "IDS"]),
   (.ideographic, ["Ideographic", "Ideo"]),
   (.idsBinaryOperator, ["IDS_Binary_Operator", "IDSB"]),
   (.idsTrinaryOperator, ["IDS_Trinary_Operator", "IDST"]),
   (.idsUnaryOperator, ["IDS_Unary_Operator", "IDSU"]),
   (.joinControl, ["Join_Control", "Join_C"]),
   (.logicalOrderException, ["Logical_Order_Exception", "LOE"]),
   (.lowercase, ["Lowercase", "Lower"]),
   (.math, ["Math"]),
   (.modifierCombiningMark, ["Modifier_Combining_Mark", "MCM"]),
   (.noncharacter, ["Noncharacter_Code_Point", "NChar"]),
   (.otherAlphabetic, ["Other_Alphabetic", "OAlpha"]),
   (.otherDefaultIgnorable, ["Other_Default_Ignorable_Code_Point", "ODI"]),
   (.otherGraphemeExtend, ["Other_Grapheme_Extend", "OGr_Ext"]),
   (.otherIdContinue, ["Other_ID_Continue", "OIDC"]),
   (.otherIdStart, ["Other_ID_Start", "OIDS"]),
   (.otherLowercase, ["Other_Lowercase", "OLower"]),
   (.otherMath, ["Other_Math", "OMath"]),
   (.otherUppercase, ["Other_Uppercase", "OUpper"]),
   (.patternSyntax, ["Pattern_Syntax", "Pat_Syn"]),
   (.patternWhiteSpace, ["Pattern_White_Space", "Pat_WS"]),
   (.prependedConcatenationMark, ["Prepended_Concatenation_Mark", "PCM"]),
   (.quotationMark, ["Quotation_Mark", "QMark"]),
   (.radical, ["Radical"]),
   (.regionalIndicator, ["Regional_Indicator", "RI"]),
   (.sentenceTerminal, ["Sentence_Terminal", "STerm"]),
   (.softDotted, ["Soft_Dotted", "SD"]),
   (.terminalPunctuation, ["Terminal_Punctuation", "Term"]),
   (.unifiedIdeograph, ["Unified_Ideograph", "UIdeo"]),
   (.uppercase, ["Uppercase", "Upper"]),
   (.variationSelector, ["Variation_Selector", "VS"]),
   (.whiteSpace, ["White_Space", "WSpace", "space"]),
   (.xidContinue, ["XID_Continue", "XIDC"]),
   (.xidStart, ["XID_Start", "XIDS"])]

end Trait
end LineGrammar.Unicode
