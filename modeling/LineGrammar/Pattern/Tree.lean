import LineGrammar.Pattern.Basic

/-! # Patterns as they are written

The written form of a pattern as a tree.  Flags stand where they are set, and the sets of character
classes are not worked out yet: both depend on the flags that hold at their place. -/

namespace LineGrammar.Written

/-- A flag that changes how the pattern after it is read. -/
inductive Flag where
  | ignoreCase
  | multiLine
  | dotAll
  | swapGreed
  | unicode
  | crlf
  | verbose
  deriving DecidableEq, Repr

/-- Flags in the order in which they are written, each with whether it is set or taken back. -/
abbrev Flags := List (Flag × Bool)

/-- A character, and whether it is written as one byte by two hexadecimal digits. -/
structure Literal where
  char : Char
  isByte : Bool := false
  deriving DecidableEq, Repr

/-- An anchor as it is written, which means different things under different flags. -/
inductive Mark where
  | caret
  | dollar
  | textStart
  | textEnd
  | word (boundary : Boundary)
  deriving DecidableEq, Repr

inductive AsciiClass where
  | alnum | alpha | ascii | blank | cntrl | digit | graph | lower | print | punct | space | upper
  | word | xdigit
  deriving DecidableEq, Repr

inductive Shorthand where
  | digit
  | space
  | word
  deriving DecidableEq, Repr

/-- How a set is asked for by a property. -/
inductive PropertyQuery where
  | named (name : Text)
  | valued (property value : Text)
  deriving DecidableEq, Repr

inductive SetOperation where
  | intersection
  | difference
  | symmetricDifference
  deriving DecidableEq, Repr

/-- What stands in a character class. -/
inductive ClassItem where
  | literal (l : Literal)
  | range (first last : Literal)
  | ascii (c : AsciiClass) (negated : Bool)
  | shorthand (s : Shorthand) (negated : Bool)
  | property (query : PropertyQuery) (negated : Bool)
  | bracketed (negated : Bool) (body : ClassItem)
  /-- No item, or two or more. -/
  | union (items : List ClassItem)
  | operation (op : SetOperation) (left right : ClassItem)

/-- A pattern as it is written. -/
inductive Tree where
  | empty
  /-- Flags for what follows in the same group. -/
  | flags (flags : Flags)
  | literal (l : Literal)
  | dot
  | anchor (m : Mark)
  | shorthand (s : Shorthand) (negated : Bool)
  | property (query : PropertyQuery) (negated : Bool)
  | bracketed (negated : Bool) (body : ClassItem)
  | repeated (bounds : Bounds) (isLazy : Bool) (body : Tree)
  | group (number : Nat) (body : Tree)
  /-- Parentheses without a number, with flags for what they hold. -/
  | scope (flags : Flags) (body : Tree)
  | sequence (parts : List Tree)
  | choice (branches : List Tree)

/-- Items next to each other in a class as one. -/
def ClassItem.ofItems : List ClassItem → ClassItem
  | [item] => item
  | items => union items

def Tree.ofParts : List Tree → Tree
  | [] => empty
  | [t] => t
  | ts => sequence ts

def Tree.ofBranches : List Tree → Tree
  | [] => empty
  | [t] => t
  | ts => choice ts

/-! ### Depth -/

mutual

/-- How deeply the parts of a class are nested. -/
def ClassItem.depth : ClassItem → Nat
  | literal _ | range _ _ | ascii _ _ | shorthand _ _ | property _ _ => 0
  | bracketed _ body => body.depth + 1
  | union [] => 0
  | union (i :: is) => max i.depth (ClassItem.depthOfAll is) + 1
  | operation _ left right => max left.depth right.depth + 1

def ClassItem.depthOfAll : List ClassItem → Nat
  | [] => 0
  | i :: is => max i.depth (ClassItem.depthOfAll is)

end

mutual

/-- How deeply the parts of a pattern are nested: each group, class, repetition, sequence and choice
is one level. -/
def Tree.depth : Tree → Nat
  | empty | flags _ | literal _ | dot | anchor _ | shorthand _ _ | property _ _ => 0
  | bracketed _ body => body.depth + 1
  | repeated _ _ body | group _ body | scope _ body => body.depth + 1
  | sequence ts | choice ts => Tree.depthOfAll ts + 1

def Tree.depthOfAll : List Tree → Nat
  | [] => 0
  | t :: ts => max t.depth (Tree.depthOfAll ts)

end

end LineGrammar.Written
