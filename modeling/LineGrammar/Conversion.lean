import LineGrammar.Files.Grammar
import LineGrammar.Pattern.Sampler
import LineGrammar.Random.ChaCha

/-! # Conversions

A conversion reads a grammar in text form from one file and writes its document to another one.  It
changes no file before the grammar is complete.

A pattern may end the program while the grammar is compiled (`RandomSampler.answer?`).  There is no
result then, and nothing comes after it. -/

namespace LineGrammar

/-- What is converted, how, and where the document goes. -/
structure Conversion where
  input : Text := "grammar.txt".toList
  output : Text := "grammar.json".toList
  settings : Settings := {}
  /-- The seed of the strings for patterns; without it they differ from run to run. -/
  seed : Option UInt64 := none
  /-- How often more than it has to a repetition without an upper bound may come. -/
  maxRepeat : Nat := 10
  document : DocumentOptions := {}
  listing : Bool := false

/-- What a run takes from its surroundings: chance, and the texts that are not made here. -/
structure Surroundings where
  /-- The key to draw with where no seed is given. -/
  key : ChaCha.Key
  /-- What the reader of regular expressions shows of a pattern that it refuses. -/
  picture : Text → Text
  /-- What is printed when the program ends before its time. -/
  notice : Text
  usage : Text
  /-- What is printed about arguments that cannot be understood. -/
  misuse : List Text → Text

namespace Conversion

variable (c : Conversion) (around : Surroundings)

/-- The sampler of a conversion.  Without a seed it draws with the key of its surroundings. -/
def sampler : RandomSampler ChaCha where
  source := (c.seed.map .ofSeed).getD (.ofKey around.key)
  maxRepeat := c.maxRepeat
  picture := around.picture

/-- The grammar of a source, unless the program ends. -/
def compile (source : Text) : Option (Except ConversionError Grammar) :=
  ((LineGrammar.compile c.settings source .empty).run.run? (c.sampler around)).map Prod.fst

/-- Performs a conversion and answers with the grammar, unless the program ends. -/
def run : FileProgram (Option (Except ConversionError Grammar)) := do
  match ← readSource c.input with
  | .error e => return some (.error e)
  | .ok source =>
    match c.compile around source with
    | none => return none
    | some (.error e) => return some (.error e)
    | some (.ok grammar) =>
      return some ((← grammar.save c.document c.output).map fun _ => grammar)

end Conversion
end LineGrammar
