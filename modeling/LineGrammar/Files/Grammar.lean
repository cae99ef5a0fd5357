import LineGrammar.Compile
import LineGrammar.Document
import LineGrammar.Files.Program

/-! # Grammars in files

A source may be read from a file, and the document of a grammar may be written to one.  A file that
cannot be read or written is reported under the path that was asked for, never under the temporary
path. -/

namespace LineGrammar

/-- The source in a file. -/
def readSource (path : Text) : FileProgram (Except ConversionError Text) := do
  return (← FileProgram.readText path).mapError (.file path)

def Workbench.addFile {σ : Type} [Sampler σ] (w : Workbench σ) (path : Text) :
    FileProgram (Except ConversionError Unit × Workbench σ) := do
  match ← readSource path with
  | .ok source => return w.addSource source
  | .error e => return (.error e, w)

/-- Writes the document of a grammar to a file. -/
def Grammar.save (g : Grammar) (o : DocumentOptions) (path : Text) :
    FileProgram (Except ConversionError Unit) := do
  return (← FileProgram.replace path (Text.encode (g.document o))).mapError (.file path)

end LineGrammar
