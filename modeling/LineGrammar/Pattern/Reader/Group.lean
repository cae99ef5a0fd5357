import LineGrammar.Pattern.Reader.Name
import LineGrammar.Pattern.Reader.Number
import LineGrammar.Pattern.Tree

/-! # Groups, flags and repetitions in patterns

What follows an opening parenthesis, and the bounds of a counted repetition. -/

namespace LineGrammar.Written

def flag? : Char → Option Flag
  | 'i' => some .ignoreCase
  | 'm' => some .multiLine
  | 's' => some .dotAll
  | 'U' => some .swapGreed
  | 'u' => some .unicode
  | 'R' => some .crlf
  | 'x' => some .verbose
  | _ => none

/-- The flags up to a colon or a closing parenthesis.  A hyphen takes back those after it. -/
def readFlags (seen : List Flag) (negated dangling : Bool) :
    Text → Except PatternFault (Flags × Text)
  | [] => .error .flagsUnfinished
  | c :: t =>
    if c = ':' ∨ c = ')' then
      if dangling then .error .flagNegationDangling else .ok ([], c :: t)
    else if c = '-' then
      if negated then .error .flagNegationTwice else readFlags seen true true t
    else match flag? c with
      | none => .error .flagUnknown
      | some f =>
        if seen.contains f then .error .flagTwice
        else do
          let (flags, rest) ← readFlags (f :: seen) negated false t
          return ((f, !negated) :: flags, rest)

/-- Whether the flags turn verbose mode on or off, or leave it as it is. -/
def Flags.verbose (flags : Flags) (now : Bool) : Bool := (flags.lookup .verbose).getD now

/-- What opens after a parenthesis. -/
inductive Opening where
  | group
  | named (name : Text)
  | scope (flags : Flags)
  | flags (flags : Flags)

/-- What follows an opening parenthesis.  `names` are those of the groups before. -/
def readOpening (verbose : Bool) (names : List Text) (t : Text) :
    Except PatternFault (Opening × Text) :=
  let named (t : Text) : Except PatternFault (Opening × Text) := do
    let (name, rest) ← readName true t
    if name.isEmpty then .error .nameEmpty
    else if names.contains name then .error .nameTwice
    else return (.named name, rest)
  match skip verbose t with
  | '?' :: '=' :: _ | '?' :: '!' :: _ | '?' :: '<' :: '=' :: _ | '?' :: '<' :: '!' :: _ =>
    .error .lookAround
  | '?' :: 'P' :: '<' :: t => named t
  | '?' :: '<' :: t => named t
  | ['?'] => .error .groupUnclosed
  | '?' :: t => do
    let (flags, rest) ← readFlags [] false false t
    match rest with
    | ')' :: rest =>
      if flags.isEmpty then .error .nothingToRepeat else return (.flags flags, rest)
    | rest => return (.scope flags, rest.drop 1)
  | t => .ok (.group, t)

/-! ### Repetitions -/

/-- What is written after the element that is repeated. -/
structure Quantifier where
  bounds : Bounds
  isLazy : Bool

/-- The quantifier for some bounds with the text after it, of which a question mark makes it
lazy. -/
def readLazy (bounds : Bounds) : Text → Quantifier × Text
  | '?' :: t => ({ bounds, isLazy := true }, t)
  | t => ({ bounds, isLazy := false }, t)

/-- The quantifier of a counted repetition, after its opening brace. -/
def readBounds (verbose : Bool) (t : Text) : Except PatternFault (Quantifier × Text) := do
  let t := skip verbose t
  if t.isEmpty then .error .countUnclosed
  let (least, t) := readCount verbose t
  let (bounds, rest) ← (match t with
    | [] => .error .countUnclosed
    | ',' :: t =>
      match skip verbose t with
      | [] => .error .countUnclosed
      | '}' :: t => do return ((← least, none), '}' :: t)
      | t => do
        let a ← least
        let (most, t) := readCount verbose t
        return ((a, some (← most)), t)
    | t => do
      let a ← least
      return ((a, some a), t) : Except PatternFault ((Nat × Option Nat) × Text))
  match rest with
  | '}' :: rest =>
    let (least, most) := bounds
    if le_most : ∀ n ∈ most, least ≤ n then
      return readLazy { least, most, le_most } (skip verbose rest)
    else .error .countRange
  | _ => .error .countUnclosed

/-- What has been read of a sequence, with its last element repeated. -/
def repeatLast (q : Quantifier) : List Tree → Except PatternFault (List Tree)
  | [] | .empty :: _ | .flags _ :: _ => .error .nothingToRepeat
  | t :: ts => .ok (.repeated q.bounds q.isLazy t :: ts)

end LineGrammar.Written
