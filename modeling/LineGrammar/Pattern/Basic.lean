import LineGrammar.Text.CharSet

/-! # Patterns

A pattern is a regular expression over characters: a text, a character of a set, one pattern after
another, one of two patterns, or a pattern repeated.  An anchor, which asks something of the place
where it stands, is a pattern without a text of its own.

Patterns are kept in a plain form.  It is made by `ofSet`, `sequence`, `choice` and `repetition`,
which stand for the same strings as the sequences, choices and repetitions that they are named for:
texts that follow each other are one text, a choice of characters is a set, a common start of all
branches of a choice stands in front of it, and what has only the empty text is repeated once at
most.  A group is left as it stands; each has a number of its own, so no two groups are equal. -/

namespace LineGrammar

/-- What a word boundary asks for. -/
inductive Boundary where
  | edge
  | noEdge
  | start
  | finish
  /-- A place before which no word stands. -/
  | startHalf
  /-- A place after which no word stands. -/
  | finishHalf
  deriving DecidableEq, Repr

/-- What an anchor asks of the place where it stands. -/
inductive Anchor where
  | textStart
  | textEnd
  | lineStart (crlf : Bool)
  | lineEnd (crlf : Bool)
  /-- A word boundary, where words consist of the characters of Unicode or of ASCII. -/
  | word (boundary : Boundary) (unicode : Bool)
  deriving DecidableEq, Repr

/-- How often something may come. -/
structure Bounds where
  least : Nat
  most : Option Nat
  le_most : ∀ n ∈ most, least ≤ n := by simp
  deriving DecidableEq, Repr

/-- The bounds where one time stands for any larger number of times. -/
def Bounds.once (b : Bounds) : Bounds where
  least := min b.least 1
  most := some ((b.most.map (min 1)).getD 1)
  le_most n hn := by
    obtain rfl := Option.some.inj hn
    cases h : b.most with
    | none => exact Nat.min_le_right b.least 1
    | some m =>
      have le : b.least ≤ m := b.le_most m h
      simp only [Option.map_some, Option.getD_some]
      omega

/-- A regular expression. -/
inductive Pattern where
  | text (t : Text)
  /-- One character of a class, and whether the class was given without Unicode. -/
  | one (members : CharClass) (ascii : Bool)
  | anchor (a : Anchor)
  | seq (first second : Pattern)
  | alt (left right : Pattern)
  /-- A pattern again and again, as often as possible or as rarely as possible. -/
  | repeated (bounds : Bounds) (greedy : Bool) (body : Pattern)
  | group (number : Nat) (body : Pattern)
  deriving DecidableEq, Repr

namespace Pattern

def empty : Pattern := text []

/-- Whether the pattern has no other text than the empty one. -/
def isTextless : Pattern → Bool
  | text t => t.isEmpty
  | anchor _ => true
  | one _ _ => false
  | seq p q | alt p q => p.isTextless && q.isTextless
  | repeated b _ p => b.most == some 0 || p.isTextless
  | group _ p => p.isTextless

/-- A character of a set.  A set of one character is the text of it. -/
def ofSet (set : CharSet) (ascii : Bool) : Pattern :=
  let members := set.characters
  match members.set with
  | [] => one members true
  | [(a, b)] => if a = b then text [Char.ofNat a] else one members ascii
  | _ => one members ascii

/-! ### Sequences -/

def parts : Pattern → List Pattern
  | text [] => []
  | seq p q => p.parts ++ q.parts
  | p => [p]

/-- Patterns that follow each other, with the texts next to each other as one. -/
def joinTexts : List Pattern → List Pattern
  | [] => []
  | text s :: ps =>
    match joinTexts ps with
    | text t :: ps => text (s ++ t) :: ps
    | ps => text s :: ps
  | p :: ps => p :: joinTexts ps

/-- The first pattern and then the others. -/
def chain : Pattern → List Pattern → Pattern
  | p, [] => p
  | p, q :: qs => seq p (chain q qs)

def sequence (ps : List Pattern) : Pattern :=
  match joinTexts (ps.flatMap parts) with
  | [] => empty
  | p :: ps => chain p ps

/-! ### Choices -/

def branches : Pattern → List Pattern
  | alt p q => p.branches ++ q.branches
  | p => [p]

/-- The set of the character that the pattern is the text of. -/
def character? : Pattern → Option CharSet
  | text [c] => some (.single c)
  | _ => none

/-- The set whose characters the pattern stands for. -/
def set? : Pattern → Option CharSet
  | one members _ => some members.set
  | _ => none

/-- The first pattern or one of the others. -/
def anyOf : Pattern → List Pattern → Pattern
  | p, [] => p
  | p, q :: qs => alt p (anyOf q qs)

/-- One of several patterns.  Characters to choose from are a set, and so are sets to choose
from. -/
def unite : List Pattern → Pattern
  | [] => ofSet [] true
  | [p] => p
  | p :: ps =>
    match (p :: ps).mapM character? <|> (p :: ps).mapM set? with
    | some sets => ofSet (CharSet.unions sets) false
    | none => anyOf p ps

/-- The longest list that two lists start with. -/
def commonStart : List Pattern → List Pattern → List Pattern
  | p :: ps, q :: qs => if p = q then p :: commonStart ps qs else []
  | _, _ => []

/-- What all the lists start with. -/
def commonStartOfAll : List (List Pattern) → List Pattern
  | [] => []
  | ps :: rest => rest.foldl commonStart ps

/-- What sequences of two or more patterns each start with. -/
def sharedStart (sequences : List (List Pattern)) : List Pattern :=
  if sequences.all (1 < ·.length) then commonStartOfAll sequences else []

/-- One of several patterns.  If all of them are sequences that start with the same patterns, these
stand in front of the choice. -/
def choice (ps : List Pattern) : Pattern :=
  let branches := ps.flatMap branches
  let sequences := branches.map parts
  let start := sharedStart sequences
  if start.isEmpty then unite branches
  else
    let rests := sequences.map fun ps => sequence (ps.drop start.length)
    sequence (start ++ [unite (rests.flatMap Pattern.branches)])

/-! ### Repetitions -/

/-- A pattern repeated.  What has only the empty text comes once at most. -/
def repetition (bounds : Bounds) (greedy : Bool) (p : Pattern) : Pattern :=
  let bounds := if p.isTextless then bounds.once else bounds
  if bounds.most = some 0 then empty
  else if bounds.least = 1 ∧ bounds.most = some 1 then p
  else repeated bounds greedy p

end Pattern
end LineGrammar
