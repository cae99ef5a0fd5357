import LineGrammar.Files.System

/-! # Programs that use files

A program is a tree of the operations that it asks for, which branches on how each of them turns
out.  It can be run on a file system in the sense of `FileSystem` (`run`) as well as on the real
one. -/

namespace LineGrammar

/-- An operation that changes files. -/
inductive FileAction where
  /-- Creates a file without contents, or removes the contents of the file that is there. -/
  | create (path : Text)
  | write (path : Text) (bytes : ByteArray)
  | sync (path : Text)
  | rename (source target : Text)
  | remove (path : Text)

/-- A computation that may read and change files. -/
inductive FileProgram (α : Type) where
  | done (result : α)
  | read (path : Text) (next : Except FileFault ByteArray → FileProgram α)
  | act (action : FileAction) (next : Except FileFault Unit → FileProgram α)

/-- The file system after an operation, if it succeeds. -/
def FileAction.perform (fs : FileSystem) : FileAction → Except FileFault FileSystem
  | create path => fs.create path
  | write path bytes => fs.write path bytes
  | sync path => fs.sync path
  | rename source target => fs.rename source target
  | remove path => fs.remove path

namespace FileProgram

variable {α β : Type}

def bind : FileProgram α → (α → FileProgram β) → FileProgram β
  | done a, f => f a
  | read path next, f => read path fun r => (next r).bind f
  | act action next, f => act action fun r => (next r).bind f

instance : Monad FileProgram where
  pure := done
  bind := bind

/-- The result of a program on a file system, and the file system after it. -/
def run : FileProgram α → FileSystem → α × FileSystem
  | done a, fs => (a, fs)
  | read path next, fs => (next (fs.read path)).run fs
  | act action next, fs =>
    match action.perform fs with
    | .ok fs' => (next (.ok ())).run fs'
    | .error fault => (next (.error fault)).run fs

/-- Operations one after another, up to the first that fails. -/
def actAll : List FileAction → FileProgram (Except FileFault Unit)
  | [] => done (.ok ())
  | action :: actions =>
    act action fun
      | .ok () => actAll actions
      | .error fault => done (.error fault)

end FileProgram

/-! ### Files as text -/

/-- The bytes of a text in UTF-8. -/
def Text.encode (t : Text) : ByteArray := (String.ofList t).toUTF8

/-- The text that bytes stand for in UTF-8, if they stand for one. -/
def Text.decode? (bytes : ByteArray) : Option Text := (String.fromUTF8? bytes).map String.toList

def FileProgram.readText (path : Text) : FileProgram (Except FileFault Text) :=
  .read path fun
    | .error fault => .done (.error fault)
    | .ok bytes => match Text.decode? bytes with
      | some t => .done (.ok t)
      | none => .done (.error .notUtf8)

/-- Gives the file at `path` new contents, whether it is there already or not.  They are written to
the temporary path first, which then takes the place of `path` at once.  If that fails, the
temporary file is removed. -/
def FileProgram.replace (path : Text) (bytes : ByteArray) :
    FileProgram (Except FileFault Unit) := do
  let temporary := Path.temporary path
  match ← actAll [.create temporary, .write temporary bytes, .sync temporary,
      .rename temporary path] with
  | .ok () => return .ok ()
  | .error fault => .act (.remove temporary) fun _ => .done (.error fault)

end LineGrammar
