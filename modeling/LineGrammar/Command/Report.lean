import LineGrammar.Command.Arguments
import LineGrammar.Grammar.Listing

/-! # Reports of the command line

What the program prints and the code that it ends with: 0 if it has done what was asked, 1 if the
conversion failed, 2 if the arguments cannot be understood, and 101 if the program was ended by a
pattern. -/

namespace LineGrammar

/-- The outcome of a run. -/
structure Report where
  code : UInt8 := 0
  output : Text := []
  errors : Text := []
  deriving DecidableEq, Repr

namespace Report

def version : Text := "grammar-to-json 0.1.0\n".toList

def summary (g : Grammar) (output : Text) : Text :=
  "Wrote ".toList ++ Text.ofNat g.size ++ " rules with ".toList ++ Text.ofNat g.alternativeCount ++
    " alternatives to ".toList ++ output ++ ['\n']

/-- The report of a program that ended before its time. -/
def crash (around : Surroundings) : Report := { code := 101, errors := around.notice }

/-- The report of a conversion by its result. -/
def ofResult (c : Conversion) (around : Surroundings) :
    Option (Except ConversionError Grammar) → Report
  | some (.ok g) => { output := (if c.listing then g.listing else []) ++ summary g c.output }
  | some (.error e) => { code := 1, errors := "error: ".toList ++ e.message ++ ['\n'] }
  | none => crash around

end Report

variable (around : Surroundings)

def Request.respond : Request → FileProgram Report
  | convert c => do return .ofResult c around (← c.run around)
  | version => return { output := Report.version }
  | help => return { output := around.usage }

def Command.run (args : List Text) : FileProgram Report :=
  match Request.ofArguments args with
  | some request => request.respond around
  | none => return { code := 2, errors := around.misuse args }

end LineGrammar
