import LineGrammar.Text.Basic

/-! # Paths

A path is a text in which slashes separate names.  Empty pieces and single dots change nothing, two
dots lead to the directory above, and a slash at the start leads to the root.

A path has a final name if its last piece that counts is a name.  The temporary path of a path is
where its new contents are prepared: next to it, under its final name with `.tmp` added
(`temporary`). -/

namespace LineGrammar.Path

def pieces (path : Text) : List Text := path.splitOn '/'

/-- Whether a piece changes nothing. -/
def isIdle (piece : Text) : Bool := piece == [] || piece == ['.']

/-- The piece that leads to the directory above. -/
def up : Text := ['.', '.']

def isAbsolute (path : Text) : Bool := path.head? == some '/'

/-- The pieces of a path up to its final name, and that name, if it has one. -/
def splitFinal? (path : Text) : Option (List Text × Text) :=
  match (pieces path).reverse.dropWhile isIdle with
  | [] => none
  | last :: before => if last = up then none else some (before.reverse, last)

def finalName? (path : Text) : Option Text := (splitFinal? path).map Prod.snd

/-- Pieces without the idle ones at their end.  The first piece stays: it says where the path
starts. -/
def trimPieces : List Text → List Text
  | [] => []
  | first :: rest => first :: (rest.reverse.dropWhile isIdle).reverse

def push (path piece : Text) : Text :=
  if path.isEmpty || path.getLast? == some '/' then path ++ piece else path ++ '/' :: piece

def suffix : Text := ".tmp".toList

/-- Where the new contents of a path are prepared. -/
def temporary (path : Text) : Text :=
  match splitFinal? path with
  | some (before, name) => ['/'].intercalate (trimPieces before ++ [name ++ suffix])
  | none => push path suffix

end LineGrammar.Path
