import LineGrammar.Unicode.Script
import LineGrammar.Unicode.Trait

/-! # Text segmentation

The classes of characters that decide where a text may be cut: into what a reader takes for one
character (`graphemeBreak`), into words (`wordBreak`) and into sentences (`sentenceBreak`). -/

namespace LineGrammar.Unicode

open CharSet

def carriageReturn : CharSet := [(0x0d, 0x0d)]

def lineFeed : CharSet := [(0x0a, 0x0a)]

/-- The character that joins two others. -/
def joiner : CharSet := [(0x200d, 0x200d)]

/-- The characters that go with the one before them. -/
def graphemeExtenders : CharSet := unions [graphemeExtend, emojiModifier]

/-- The characters that print nothing and stand on their own. -/
def graphemeControls : CharSet :=
  difference
    (unions [lineSeparators, paragraphSeparators, controls, formats,
      difference defaultIgnorable assigned])
    (unions [carriageReturn, lineFeed, joiner, graphemeExtend, prependedConcatenationMark])

/-- The characters that go with the one after them. -/
def graphemePrepended : CharSet :=
  unions [prependedConcatenationMark,
    [(0xd4e, 0xd4e), (0x111c2, 0x111c3), (0x113d1, 0x113d1), (0x1193f, 0x1193f),
     (0x11941, 0x11941), (0x11a3a, 0x11a3a), (0x11a84, 0x11a89), (0x11d46, 0x11d46),
     (0x11f02, 0x11f02)]]

/-- The marks with a width that go with the character before them. -/
def graphemeSpacingMarks : CharSet :=
  difference (unions [difference spacingMarks graphemeExtend, [(0xe33, 0xe33), (0xeb3, 0xeb3)]])
    [(0x102b, 0x102c), (0x1038, 0x1038), (0x1062, 0x1064), (0x1067, 0x106d), (0x1083, 0x1083),
     (0x1087, 0x108c), (0x108f, 0x108f), (0x109a, 0x109c), (0x1a61, 0x1a61), (0x1a63, 0x1a64),
     (0xaa7b, 0xaa7b), (0xaa7d, 0xaa7d), (0x11720, 0x11721)]

/-- The Korean syllables of two letters: every 28th one. -/
def syllablesOfTwo : CharSet :=
  (List.range 399).map fun i => (0xac00 + 28 * i, 0xac00 + 28 * i)

/-- The values of the property `Grapheme_Cluster_Break`. -/
def graphemeBreak : List Value :=
  [⟨["CR"], carriageReturn⟩, ⟨["LF"], lineFeed⟩, ⟨["Control", "CN"], graphemeControls⟩,
   ⟨["Extend", "EX"], graphemeExtenders⟩, ⟨["Prepend", "PP"], graphemePrepended⟩,
   ⟨["SpacingMark", "SM"], graphemeSpacingMarks⟩, ⟨["ZWJ"], joiner⟩,
   ⟨["Regional_Indicator", "RI"], regionalIndicator⟩,
   ⟨["L"], [(0x1100, 0x115f), (0xa960, 0xa97c)]⟩,
   ⟨["V"], [(0x1160, 0x11a7), (0xd7b0, 0xd7c6), (0x16d63, 0x16d63), (0x16d67, 0x16d6a)]⟩,
   ⟨["T"], [(0x11a8, 0x11ff), (0xd7cb, 0xd7fb)]⟩, ⟨["LV"], syllablesOfTwo⟩,
   ⟨["LVT"], difference [(0xac00, 0xd7a3)] syllablesOfTwo⟩]

/-! ### Words -/

/-- The characters that belong to the word before them. -/
def wordExtenders : CharSet := unions [graphemeExtend, spacingMarks, emojiModifier]

/-- The members of the script with a name. -/
def scriptMembers (name : String) : CharSet :=
  ((findValue? (looseName name.toList) scripts).map Value.members).getD []

def hebrewLetters : CharSet := intersect (scriptMembers "Hebrew") otherLetters

def katakana : CharSet :=
  unions [scriptMembers "Katakana",
    [(0x3031, 0x3035), (0x309b, 0x309c), (0x30a0, 0x30a0), (0x30fc, 0x30fc), (0xff70, 0xff70)]]

/-- The scripts that are written without spaces between words. -/
def scriptsWithoutSpaces : List String :=
  ["Thai", "Lao", "Myanmar", "Khmer", "Tai_Le", "New_Tai_Lue", "Tai_Tham", "Tai_Viet", "Ahom"]

/-- The marks that start a number. -/
def numberMarks : CharSet := difference prependedConcatenationMark [(0x70f, 0x70f)]

def numerals : CharSet :=
  unions [decimalNumbers, numberMarks, [(0x66b, 0x66b), (0x19da, 0x19da)]]

def wordLetters : CharSet :=
  difference
    (unions [alphabetic,
      [(0x2c2, 0x2c5), (0x2d2, 0x2d7), (0x2de, 0x2df), (0x2e5, 0x2eb), (0x2ed, 0x2ed),
       (0x2ef, 0x2ff), (0x55a, 0x55c), (0x55e, 0x55e), (0x58a, 0x58a), (0x5f3, 0x5f3),
       (0x70f, 0x70f), (0xa708, 0xa716), (0xa720, 0xa721), (0xa789, 0xa78a), (0xab5b, 0xab5b)]])
    (unions (ideographic :: katakana :: wordExtenders :: hebrewLetters ::
      scriptMembers "Hiragana" :: scriptsWithoutSpaces.map scriptMembers))

/-- The values of the property `Word_Break`. -/
def wordBreak : List Value :=
  [⟨["CR"], carriageReturn⟩, ⟨["LF"], lineFeed⟩,
   ⟨["Newline", "NL"], [(0x0b, 0x0c), (0x85, 0x85), (0x2028, 0x2029)]⟩,
   ⟨["Double_Quote", "DQ"], [(0x22, 0x22)]⟩, ⟨["Single_Quote", "SQ"], [(0x27, 0x27)]⟩,
   ⟨["MidNumLet", "MB"],
    [(0x2e, 0x2e), (0x2018, 0x2019), (0x2024, 0x2024), (0xfe52, 0xfe52), (0xff07, 0xff07),
     (0xff0e, 0xff0e)]⟩,
   ⟨["MidLetter", "ML"],
    [(0x3a, 0x3a), (0xb7, 0xb7), (0x387, 0x387), (0x55f, 0x55f), (0x5f4, 0x5f4), (0x2027, 0x2027),
     (0xfe13, 0xfe13), (0xfe55, 0xfe55), (0xff1a, 0xff1a)]⟩,
   ⟨["MidNum", "MN"],
    [(0x2c, 0x2c), (0x3b, 0x3b), (0x37e, 0x37e), (0x589, 0x589), (0x60c, 0x60d), (0x66c, 0x66c),
     (0x7f8, 0x7f8), (0x2044, 0x2044), (0xfe50, 0xfe50), (0xfe54, 0xfe54), (0xff0c, 0xff0c),
     (0xff1b, 0xff1b)]⟩,
   ⟨["Hebrew_Letter", "HL"], hebrewLetters⟩, ⟨["Katakana", "KA"], katakana⟩,
   ⟨["ALetter", "LE"], wordLetters⟩, ⟨["Numeric", "NU"], numerals⟩,
   ⟨["ExtendNumLet", "EX"], unions [connectorPunctuations, [(0x202f, 0x202f)]]⟩,
   ⟨["Extend"], wordExtenders⟩, ⟨["ZWJ"], joiner⟩,
   ⟨["Format", "FO"],
    difference formats
      (unions [[(0x200b, 0x200d)], graphemeExtend, prependedConcatenationMark])⟩,
   ⟨["Regional_Indicator", "RI"], regionalIndicator⟩,
   ⟨["WSegSpace"],
    difference spaceSeparators [(0xa0, 0xa0), (0x2007, 0x2007), (0x202f, 0x202f)]⟩]

/-! ### Sentences -/

/-- The characters after which a new paragraph starts. -/
def paragraphBreaks : CharSet := [(0x85, 0x85), (0x2028, 0x2029)]

def fullStops : CharSet :=
  [(0x2e, 0x2e), (0x2024, 0x2024), (0xfe52, 0xfe52), (0xff0e, 0xff0e)]

def sentenceExtenders : CharSet := unions [graphemeExtend, spacingMarks, joiner]

def sentenceLower : CharSet :=
  difference lowercase (unions [graphemeExtend, georgianLetters])

def sentenceUpper : CharSet :=
  difference (unions [titlecaseLetters, uppercase]) [(0x1c90, 0x1cba), (0x1cbd, 0x1cbf)]

/-- The values of the property `Sentence_Break`. -/
def sentenceBreak : List Value :=
  [⟨["CR"], carriageReturn⟩, ⟨["LF"], lineFeed⟩, ⟨["Sep", "SE"], paragraphBreaks⟩,
   ⟨["Sp", "SP"], difference whiteSpace (unions [paragraphBreaks, carriageReturn, lineFeed])⟩,
   ⟨["Extend", "EX"], sentenceExtenders⟩,
   ⟨["Format", "FO"],
    difference formats
      (unions [[(0x200c, 0x200d)], graphemeExtend, numberMarks])⟩,
   ⟨["Lower", "LO"], sentenceLower⟩, ⟨["Upper", "UP"], sentenceUpper⟩,
   ⟨["OLetter", "LE"],
    difference (unions [alphabetic, [(0x5f3, 0x5f3)]])
      (unions [sentenceLower, sentenceUpper, sentenceExtenders])⟩,
   ⟨["Numeric", "NU"], unions [numerals, [(0x66c, 0x66c)]]⟩, ⟨["ATerm", "AT"], fullStops⟩,
   ⟨["STerm", "ST"], difference sentenceTerminal fullStops⟩,
   ⟨["SContinue", "SC"],
    [(0x2c, 0x2d), (0x3a, 0x3b), (0x37e, 0x37e), (0x55d, 0x55d), (0x60c, 0x60d), (0x7f8, 0x7f8),
     (0x1802, 0x1802), (0x1808, 0x1808), (0x2013, 0x2014), (0x3001, 0x3001), (0xfe10, 0xfe11),
     (0xfe13, 0xfe14), (0xfe31, 0xfe32), (0xfe50, 0xfe51), (0xfe54, 0xfe55), (0xfe58, 0xfe58),
     (0xfe63, 0xfe63), (0xff0c, 0xff0d), (0xff1a, 0xff1b), (0xff64, 0xff64)]⟩,
   ⟨["Close", "CL"],
    difference
      (unions [openPunctuations, closePunctuations, initialPunctuations, finalPunctuations,
        [(0x22, 0x22), (0x27, 0x27), (0x275b, 0x2760), (0x2e00, 0x2e01), (0x2e06, 0x2e08),
         (0x2e0b, 0x2e0b), (0x1f676, 0x1f678)]])
      (unions [fullStops, sentenceTerminal])⟩]

end LineGrammar.Unicode
