import LineGrammar.Error
import LineGrammar.Files.Path

/-! # File systems

A file system, without links, maps locations to files and directories.  A path is followed piece by
piece from the root or from the working directory; each piece but the last has to lead to a
directory.  An operation that fails leaves the file system as it is. -/

namespace LineGrammar

/-- What a location holds. -/
inductive Entry where
  | file (contents : ByteArray)
  | directory

/-- A place in a file system: the names on the way from the root. -/
abbrev Location := List Text

/-- Files and directories by their locations. -/
structure FileSystem where
  entries : List (Location × Entry) := []
  working : Location := []

/-- Where a path leads. -/
inductive Target where
  /-- To a name in a directory; `slash` says whether the path ends in a slash. -/
  | name (directory : Location) (name : Text) (slash : Bool)
  /-- To a directory that it does not name: the root, or what one or two dots stand for. -/
  | unnamed (directory : Location)

namespace FileSystem

variable (fs : FileSystem)

/-- The entry at a location.  The root is a directory. -/
def entry? (l : Location) : Option Entry :=
  if l.isEmpty then some .directory else fs.entries.lookup l

/-- The file system with an entry put at a location, in place of the one that was there. -/
def put (l : Location) (e : Entry) : FileSystem :=
  { fs with entries := (l, e) :: fs.entries.filter fun p => p.1 != l }

def erase (l : Location) : FileSystem :=
  { fs with entries := fs.entries.filter fun p => p.1 != l }

/-! ### Following paths -/

def nameLimit : Nat := 255

/-- The number of bytes that a path has to stay below. -/
def pathLimit : Nat := 4096

/-- The directory that pieces of a path lead to. -/
def walk (l : Location) : List Text → Except FileFault Location
  | [] => .ok l
  | piece :: pieces =>
    if Path.isIdle piece then walk l pieces
    else if piece = Path.up then walk l.dropLast pieces
    else if nameLimit < Text.byteLength piece then .error .nameTooLong
    else match fs.entry? (l ++ [piece]) with
      | none => .error .notFound
      | some (.file _) => .error .notDirectory
      | some .directory => walk (l ++ [piece]) pieces

/-- Where a path leads. -/
def resolve (path : Text) : Except FileFault Target := do
  if path.contains '\x00' then .error .nulInPath
  if path.isEmpty then .error .notFound
  if pathLimit ≤ Text.byteLength path then .error .nameTooLong
  let start := if Path.isAbsolute path then [] else fs.working
  let pieces := (Path.pieces path).filter fun p => !p.isEmpty
  match pieces.getLast? with
  | none => return .unnamed start
  | some last =>
    if Path.isIdle last || last == Path.up then
      return .unnamed (← fs.walk start pieces)
    let directory ← fs.walk start pieces.dropLast
    if nameLimit < Text.byteLength last then .error .nameTooLong
    return .name directory last (path.getLast? == some '/')

/-! ### Operations -/

def read (path : Text) : Except FileFault ByteArray := do
  match ← fs.resolve path with
  | .unnamed _ => .error .isDirectory
  | .name directory name slash =>
    match fs.entry? (directory ++ [name]) with
    | none => .error .notFound
    | some .directory => .error .isDirectory
    | some (.file contents) => if slash then .error .notDirectory else return contents

/-- Creates a file without contents, or removes the contents of the file that is there. -/
def create (path : Text) : Except FileFault FileSystem := do
  match ← fs.resolve path with
  | .unnamed _ => .error .isDirectory
  | .name directory name slash =>
    if slash then .error .isDirectory
    match fs.entry? (directory ++ [name]) with
    | some .directory => .error .isDirectory
    | _ => return fs.put (directory ++ [name]) (.file .empty)

def write (path : Text) (bytes : ByteArray) : Except FileFault FileSystem := do
  match ← fs.resolve path with
  | .unnamed _ => .error .isDirectory
  | .name directory name _ =>
    match fs.entry? (directory ++ [name]) with
    | none => .error .notFound
    | some .directory => .error .isDirectory
    | some (.file contents) => return fs.put (directory ++ [name]) (.file (contents ++ bytes))

/-- Makes sure that a file has reached the device, which changes nothing that can be seen. -/
def sync (path : Text) : Except FileFault FileSystem := do
  let _ ← fs.read path
  return fs

/-- Gives a file another path.  A file that is there already is replaced. -/
def rename (source target : Text) : Except FileFault FileSystem := do
  let source ← fs.resolve source
  let target ← fs.resolve target
  match source, target with
  | .name fromDirectory fromName fromSlash, .name toDirectory toName toSlash =>
    match fs.entry? (fromDirectory ++ [fromName]) with
    | none => .error .notFound
    | some .directory => .error .isDirectory
    | some (.file contents) =>
      if fromSlash || toSlash then .error .notDirectory
      match fs.entry? (toDirectory ++ [toName]) with
      | some .directory => .error .isDirectory
      | _ =>
        return (fs.erase (fromDirectory ++ [fromName])).put (toDirectory ++ [toName])
          (.file contents)
  | _, _ => .error .busy

def remove (path : Text) : Except FileFault FileSystem := do
  match ← fs.resolve path with
  | .unnamed _ => .error .isDirectory
  | .name directory name slash =>
    match fs.entry? (directory ++ [name]) with
    | none => .error .notFound
    | some .directory => .error .isDirectory
    | some (.file _) =>
      if slash then .error .notDirectory else return fs.erase (directory ++ [name])

end FileSystem
end LineGrammar
