import LineGrammar.Command.Report

/-! # The program

Performs the operations of a program on the files of the system, and prints the report. -/

namespace LineGrammar.Main

/-- The failure behind an error of the system. -/
def faultOf : IO.Error → FileFault
  | .noFileOrDirectory _ n _ | .resourceBusy n _ | .permissionDenied _ n _
  | .alreadyExists _ n _ | .inappropriateType _ n _ | .resourceExhausted _ n _
  | .invalidArgument _ n _ | .unsatisfiedConstraints n _ | .hardwareFault n _
  | .noSuchThing _ n _ | .unsupportedOperation n _ | .otherError n _ => .ofNumber n.toNat
  | e => .other (toString e).toList

/-- The outcome of an operation on a path, which must not hold the character NUL. -/
def attempt {α : Type} (path : Text) (operation : String → IO α) : IO (Except FileFault α) := do
  if path.contains '\x00' then return .error .nulInPath
  try
    return .ok (← operation (String.ofList path))
  catch e => return .error (faultOf e)

/-- Performs an operation on the files of the system.  There is no way to make sure that a file has
reached the device: `sync` opens the file once more and flushes that handle, which has nothing to
flush, so it only finds out whether the file can still be opened. -/
def perform : FileAction → IO (Except FileFault Unit)
  | .create path => attempt path fun p => do discard (IO.FS.Handle.mk p .write)
  | .write path bytes => attempt path fun p => do (← IO.FS.Handle.mk p .append).write bytes
  | .sync path => attempt path fun p => do (← IO.FS.Handle.mk p .append).flush
  | .rename source target => attempt (source ++ target) fun _ =>
    IO.FS.rename (String.ofList source) (String.ofList target)
  | .remove path => attempt path fun p => IO.FS.removeFile p

def execute {α : Type} : FileProgram α → IO α
  | .done a => return a
  | .read path next => do
    let contents ← attempt path fun p => do (← IO.FS.Handle.mk p .read).readBinToEnd
    execute (next contents)
  | .act action next => do execute (next (← perform action))

/-- The word of four bytes, the lowest of which comes first. -/
def wordAt (bytes : ByteArray) (i : Nat) : UInt32 :=
  [3, 2, 1, 0].foldl (fun w k => w * 256 + (bytes.get! (i + k)).toUInt32) 0

def keyOf (bytes : ByteArray) : ChaCha.Key where
  low := ⟨wordAt bytes 0, wordAt bytes 4, wordAt bytes 8, wordAt bytes 12⟩
  high := ⟨wordAt bytes 16, wordAt bytes 20, wordAt bytes 24, wordAt bytes 28⟩

def usage : Text := "Usage: grammar-to-json [OPTIONS] [GRAMMAR]\n".toList

/-- The surroundings of a run: a new key, and short texts in place of those that others make. -/
def surroundings : IO Surroundings := do
  return {
    key := keyOf (← IO.getRandomBytes 32)
    picture := fun pattern => "    ".toList ++ pattern ++ ['\n']
    notice := "The program has ended: no string can be drawn for a pattern.\n".toList
    usage
    misuse := fun _ => "error: invalid arguments\n\n".toList ++ usage }

/-- Does what the arguments ask for, and ends with the code of the report. -/
def start (args : List String) : IO UInt32 := do
  let report ← execute (Command.run (← surroundings) (args.map String.toList))
  IO.print (String.ofList report.output)
  IO.eprint (String.ofList report.errors)
  return report.code.toUInt32

end LineGrammar.Main

def main (args : List String) : IO UInt32 := LineGrammar.Main.start args
