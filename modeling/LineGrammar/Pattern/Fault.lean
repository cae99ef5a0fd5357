import LineGrammar.Text.Basic

/-! # What can be wrong with a pattern

The faults of a pattern by their cause, with the reason that each is reported for. -/

namespace LineGrammar

/-- Why a pattern is refused. -/
inductive PatternFault where
  | classUnclosed
  | classEscape
  | classRange
  | classRangeLiteral
  | countMissing
  | countTooLarge
  | countUnclosed
  | countRange
  | nothingToRepeat
  | escapeUnfinished
  | escapeUnknown
  | backreference
  | hexEmpty
  | hexDigit
  | hexCharacter
  | propertyMissing
  | propertyUnknown
  | propertyValueUnknown
  | boundaryUnclosed
  | boundaryUnfinished
  | boundaryUnknown
  | groupUnclosed
  | groupUnopened
  | groupsTooDeep
  | lookAround
  | nameUnclosed
  | nameEmpty
  | nameCharacter
  | nameTwice
  | flagUnknown
  | flagTwice
  | flagNegationTwice
  | flagNegationDangling
  | flagsUnfinished
  | notAscii
  | notUtf8
  | anchor
  deriving DecidableEq, Repr

namespace PatternFault

/-- The depth to which groups, classes, repetitions, sequences and choices may be nested. -/
def depthLimit : Nat := 250

def text : PatternFault → String
  | classUnclosed => "unclosed character class"
  | classEscape => "invalid escape sequence found in character class"
  | classRange => "invalid character class range, the start must be <= the end"
  | classRangeLiteral => "invalid range boundary, must be a literal"
  | countMissing => "repetition quantifier expects a valid decimal"
  | countTooLarge => "decimal literal invalid"
  | countUnclosed => "unclosed counted repetition"
  | countRange => "invalid repetition count range, the start must be <= the end"
  | nothingToRepeat => "repetition operator missing expression"
  | escapeUnfinished => "incomplete escape sequence, reached end of pattern prematurely"
  | escapeUnknown => "unrecognized escape sequence"
  | backreference => "backreferences are not supported"
  | hexEmpty => "hexadecimal literal empty"
  | hexDigit => "invalid hexadecimal digit"
  | hexCharacter => "hexadecimal literal is not a Unicode scalar value"
  | propertyMissing => "invalid Unicode character class"
  | propertyUnknown => "Unicode property not found"
  | propertyValueUnknown => "Unicode property value not found"
  | boundaryUnclosed =>
    "special word boundary assertion is either unclosed or contains an invalid character"
  | boundaryUnfinished =>
    "found either the beginning of a special word boundary or a bounded repetition on a \\b " ++
      "with an opening brace, but no closing brace"
  | boundaryUnknown =>
    "unrecognized special word boundary assertion, valid choices are: start, end, start-half " ++
      "or end-half"
  | groupUnclosed => "unclosed group"
  | groupUnopened => "unopened group"
  | groupsTooDeep => "exceed the maximum number of nested parentheses/brackets (250)"
  | lookAround => "look-around, including look-ahead and look-behind, is not supported"
  | nameUnclosed => "unclosed capture group name"
  | nameEmpty => "empty capture group name"
  | nameCharacter => "invalid capture group character"
  | nameTwice => "duplicate capture group name"
  | flagUnknown => "unrecognized flag"
  | flagTwice => "duplicate flag"
  | flagNegationTwice => "flag negation operator repeated"
  | flagNegationDangling => "dangling flag negation operator"
  | flagsUnfinished => "expected flag but got end of regex"
  | notAscii => "Unicode not allowed here"
  | notUtf8 => "pattern can match invalid UTF-8"
  | anchor => "anchor is not supported"

/-- The reason that is reported for a pattern with a fault.  An anchor is a fault of what a pattern
means; a fault of how it is written is reported with a picture of the pattern, which shows the place
of the fault. -/
def reason (picture : Text) (f : PatternFault) : Text :=
  match f with
  | anchor => f.text.toList
  | _ => "regex parse error:\n".toList ++ picture ++ "error: ".toList ++ f.text.toList

end PatternFault
end LineGrammar
