import LineGrammar.Pattern.Reader.Class
import LineGrammar.Pattern.Reader.Group

/-! # Reading the written form of a pattern

The text of a pattern as a tree.  It is read from left to right and the first fault ends the
reading; that a pattern is nested too deeply is found last.  The reader calls itself for the groups
of a pattern and carries a bound on the calls; a call is made only after a character was read, so
the length of the text is enough (`Tree.read`). -/

namespace LineGrammar.Written

/-- What a reader of patterns has to know besides the text that is left. -/
structure Context where
  verbose : Bool := false
  names : List Text := []
  groups : Nat := 0

/-- The pattern that ends here: the elements of its last branch and the branches before, the latest
first. -/
def closePattern (branches parts : List Tree) : Tree :=
  .ofBranches (.ofParts parts.reverse :: branches).reverse

/-- The elements of a pattern up to its end, which for a group is the closing parenthesis and else
the end of the text.  `branches` and `parts` are what has been read of it, the latest first. -/
def readElements (inGroup : Bool) : (fuel : Nat) → (branches parts : List Tree) → Context → Text →
    Except PatternFault (Tree × Context × Text)
  | 0, _, _, _, _ => .error .groupUnclosed
  | fuel + 1, branches, parts, context, t =>
    let verbose := context.verbose
    let continueWith (part : Tree) := readElements inGroup fuel branches (part :: parts) context
    let repeatWith : Quantifier × Text → _ := fun (q, t) => do
      readElements inGroup fuel branches (← repeatLast q parts) context t
    let readGroup (names : List Text) (t : Text) := do
      let (body, inner, t) ← readElements true fuel [] []
        { context with names, groups := context.groups + 1 } t
      readElements inGroup fuel branches (.group context.groups body :: parts)
        { inner with verbose } t
    match skip verbose t with
    | [] =>
      if inGroup then .error .groupUnclosed else .ok (closePattern branches parts, context, [])
    | ')' :: t =>
      if inGroup then .ok (closePattern branches parts, context, t) else .error .groupUnopened
    | '|' :: t => readElements inGroup fuel (.ofParts parts.reverse :: branches) [] context t
    | '(' :: t => do
      match ← readOpening verbose context.names t with
      | (.flags flags, t) =>
        readElements inGroup fuel branches (.flags flags :: parts)
          { context with verbose := flags.verbose verbose } t
      | (.scope flags, t) =>
        let (body, inner, t) ← readElements true fuel [] []
          { context with verbose := flags.verbose verbose } t
        readElements inGroup fuel branches (.scope flags body :: parts) { inner with verbose } t
      | (.group, t) => readGroup context.names t
      | (.named name, t) => readGroup (name :: context.names) t
    | '[' :: t => do
      let (cls, t) ← readClass verbose fuel t
      continueWith cls t
    | '?' :: t => repeatWith (readLazy { least := 0, most := some 1 } t)
    | '*' :: t => repeatWith (readLazy { least := 0, most := none } t)
    | '+' :: t => repeatWith (readLazy { least := 1, most := none } t)
    | '{' :: t => do
      let _ ← repeatLast ⟨{ least := 0, most := none }, false⟩ parts
      repeatWith (← readBounds verbose t)
    | '\\' :: t => do
      let (e, t) ← readEscape verbose t
      continueWith e.toTree t
    | '.' :: t => continueWith .dot t
    | '^' :: t => continueWith (.anchor .caret) t
    | '$' :: t => continueWith (.anchor .dollar) t
    | c :: t => continueWith (.literal { char := c }) t

/-- The written form of a pattern. -/
def Tree.read (t : Text) : Except PatternFault Tree := do
  let (tree, _) ← readElements false (t.length + 1) [] [] {} t
  if PatternFault.depthLimit < tree.depth then .error .groupsTooDeep else return tree

end LineGrammar.Written
