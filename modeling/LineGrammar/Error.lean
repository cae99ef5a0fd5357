import LineGrammar.Files.Fault
import LineGrammar.Text.Hidden
import LineGrammar.Text.Quoted

/-! # What can go wrong

The errors of a conversion by their cause, and the message of each: a line that is no rule, a
pattern for which no string can be generated, and a file that cannot be read or written. -/

namespace LineGrammar

/-- A pattern for which no string can be generated, with the reason. -/
structure PatternError where
  pattern : Text
  reason : Text
  deriving DecidableEq, Repr

/-- Why a conversion failed. -/
inductive ConversionError where
  /-- A line, counted from 1, that is no rule; its content is given without the line ending. -/
  | malformedRule (line : Nat) (content : Text)
  | pattern (error : PatternError)
  | file (path : Text) (fault : FileFault)
  deriving DecidableEq, Repr

def PatternError.message (e : PatternError) : Text :=
  "Cannot generate a string for pattern '".toList ++ e.pattern ++ "': ".toList ++ e.reason

def ConversionError.message : ConversionError → Text
  | malformedRule line content =>
    "Line ".toList ++ Text.ofNat line ++ " is not a rule (missing ': '): ".toList ++
      Text.quoted Text.isHidden content
  | pattern error => error.message
  | file path fault => "I/O error on ".toList ++ path ++ ": ".toList ++ fault.message

end LineGrammar
