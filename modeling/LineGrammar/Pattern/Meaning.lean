import LineGrammar.Pattern.Basic
import LineGrammar.Pattern.Fault
import LineGrammar.Pattern.Reader
import LineGrammar.Unicode.Property

/-! # What a written pattern means

The written form of a pattern as a regular expression.  The flags that hold at a place decide what
stands there: letters may match in either case, the dot may match a newline, and without Unicode
there are only the ASCII characters.  Flags hold up to the end of the group in which they are set,
also across the bar of a choice. -/

namespace LineGrammar.Written

/-- The flags that matter for what a pattern means. -/
structure Options where
  ignoreCase : Bool := false
  multiLine : Bool := false
  dotAll : Bool := false
  crlf : Bool := false
  swapGreed : Bool := false
  unicode : Bool := true
  deriving DecidableEq, Repr

/-- The options after some flags. -/
def Options.set (o : Options) (flags : Flags) : Options where
  ignoreCase := (flags.lookup .ignoreCase).getD o.ignoreCase
  multiLine := (flags.lookup .multiLine).getD o.multiLine
  dotAll := (flags.lookup .dotAll).getD o.dotAll
  crlf := (flags.lookup .crlf).getD o.crlf
  swapGreed := (flags.lookup .swapGreed).getD o.swapGreed
  unicode := (flags.lookup .unicode).getD o.unicode

/-! ### Sets of characters -/

def AsciiClass.members : AsciiClass → CharSet
  | alnum => [(0x30, 0x39), (0x41, 0x5a), (0x61, 0x7a)]
  | alpha => [(0x41, 0x5a), (0x61, 0x7a)]
  | ascii => [(0x00, 0x7f)]
  | blank => [(0x09, 0x09), (0x20, 0x20)]
  | cntrl => [(0x00, 0x1f), (0x7f, 0x7f)]
  | digit => [(0x30, 0x39)]
  | graph => [(0x21, 0x7e)]
  | lower => [(0x61, 0x7a)]
  | print => [(0x20, 0x7e)]
  | punct => [(0x21, 0x2f), (0x3a, 0x40), (0x5b, 0x60), (0x7b, 0x7e)]
  | space => [(0x09, 0x0d), (0x20, 0x20)]
  | upper => [(0x41, 0x5a)]
  | word => [(0x30, 0x39), (0x41, 0x5a), (0x5f, 0x5f), (0x61, 0x7a)]
  | xdigit => [(0x30, 0x39), (0x41, 0x46), (0x61, 0x66)]

/-- The members of a class that is written with one letter. -/
def Shorthand.members (unicode : Bool) : Shorthand → CharSet
  | digit => if unicode then Unicode.decimalNumbers else AsciiClass.digit.members
  | space => if unicode then Unicode.whiteSpace else AsciiClass.space.members
  | word => if unicode then Unicode.wordCharacters else AsciiClass.word.members

/-- The members of the set that is asked for. -/
def PropertyQuery.members (q : PropertyQuery) : Except PatternFault CharSet :=
  let members := match q with
    | named name => Unicode.membersNamed name
    | valued property value => Unicode.membersWith property value
  members.mapError fun
    | .property => .propertyUnknown
    | .value => .propertyValueUnknown

namespace Options

variable (o : Options)

/-- A set with the characters that differ from its members in case only, where case is ignored. -/
def closeCase (s : CharSet) : CharSet :=
  if o.ignoreCase then
    if o.unicode then s.closeCase else s.closeAsciiCase
  else s

/-- A set or, where it is negated, the characters outside.  Without Unicode those are bytes that are
no characters, among others. -/
def negate (negated : Bool) (s : CharSet) : Except PatternFault CharSet :=
  if negated then
    if o.unicode then .ok s.complement else .error .notUtf8
  else .ok s

/-- A character in a class.  Without Unicode it has to be an ASCII character. -/
def classLiteral (l : Literal) : Except PatternFault Char :=
  if o.unicode || l.char.toNat < 0x80 then .ok l.char
  else if l.isByte && l.char.toNat ≤ 0xff then .error .notUtf8
  else .error .notAscii

def propertySet (q : PropertyQuery) (negated : Bool) : Except PatternFault CharSet := do
  if !o.unicode then .error .notAscii
  o.negate negated (o.closeCase (← q.members))

end Options

def SetOperation.apply : SetOperation → CharSet → CharSet → CharSet
  | intersection => CharSet.intersect
  | difference => CharSet.difference
  | symmetricDifference => CharSet.symmetricDifference

mutual

/-- The members of an item of a class. -/
def ClassItem.members (o : Options) : ClassItem → Except PatternFault CharSet
  | literal l => do return .single (← o.classLiteral l)
  | range first last => do return .interval (← o.classLiteral first) (← o.classLiteral last)
  | ascii c negated => o.negate negated (o.closeCase c.members)
  | shorthand s negated => o.negate negated (s.members o.unicode)
  | property query negated => o.propertySet query negated
  | bracketed negated body => do o.negate negated (o.closeCase (← body.members o))
  | union items => do return CharSet.unions (← ClassItem.membersOfAll o items)
  | operation op left right => do
    let l ← left.members o
    let r ← right.members o
    return op.apply (o.closeCase l) (o.closeCase r)

def ClassItem.membersOfAll (o : Options) : List ClassItem → Except PatternFault (List CharSet)
  | [] => .ok []
  | i :: is => do
    let s ← i.members o
    let t ← ClassItem.membersOfAll o is
    return s :: t

end

/-! ### Patterns -/

namespace Options

variable (o : Options)

def literal (l : Literal) : Except PatternFault Pattern :=
  if !o.unicode && l.isByte && 0x80 ≤ l.char.toNat && l.char.toNat ≤ 0xff then .error .notUtf8
  else .ok (.ofSet (o.closeCase (.single l.char)) (!o.unicode))

/-- The characters that the dot stands for. -/
def dot : Except PatternFault Pattern :=
  if !o.unicode then .error .notUtf8
  else if o.dotAll then .ok (.ofSet CharSet.all false)
  else if o.crlf then .ok (.ofSet (CharSet.complement [(0x0a, 0x0a), (0x0d, 0x0d)]) false)
  else .ok (.ofSet (CharSet.complement [(0x0a, 0x0a)]) false)

def anchor : Mark → Anchor
  | .caret => if o.multiLine then .lineStart o.crlf else .textStart
  | .dollar => if o.multiLine then .lineEnd o.crlf else .textEnd
  | .textStart => .textStart
  | .textEnd => .textEnd
  | .word b => .word b o.unicode

def ofSet (negated : Bool) (s : CharSet) : Except PatternFault Pattern := do
  return .ofSet (← o.negate negated s) (!o.unicode)

end Options

mutual

/-- What a written pattern means, and the options after it. -/
def Tree.meaning (o : Options) : Tree → Except PatternFault (Pattern × Options)
  | empty => .ok (.empty, o)
  | flags fs => .ok (.empty, o.set fs)
  | literal l => do return (← o.literal l, o)
  | dot => do return (← o.dot, o)
  | anchor m => .ok (.anchor (o.anchor m), o)
  | shorthand s negated => do return (← o.ofSet negated (s.members o.unicode), o)
  | property query negated => do return (.ofSet (← o.propertySet query negated) false, o)
  | bracketed negated body => do return (← o.ofSet negated (o.closeCase (← body.members o)), o)
  | repeated bounds isLazy body => do
    let (p, o) ← body.meaning o
    return (.repetition bounds (isLazy == o.swapGreed) p, o)
  | group number body => do
    let (p, _) ← body.meaning o
    return (.group number p, o)
  | scope fs body => do
    let (p, _) ← body.meaning (o.set fs)
    return (p, o)
  | sequence parts => do
    let (ps, o) ← Tree.meanings o parts
    return (.sequence ps, o)
  | choice branches => do
    let (ps, o) ← Tree.meanings o branches
    return (.choice ps, o)

/-- What several written patterns mean, each under the options after the one before. -/
def Tree.meanings (o : Options) : List Tree → Except PatternFault (List Pattern × Options)
  | [] => .ok ([], o)
  | t :: ts => do
    let (p, o) ← t.meaning o
    let (ps, o) ← Tree.meanings o ts
    return (p :: ps, o)

end

end LineGrammar.Written

namespace LineGrammar

/-- The regular expression that a text stands for. -/
def Pattern.ofText (t : Text) : Except PatternFault Pattern := do
  let tree ← Written.Tree.read t
  let (p, _) ← tree.meaning {}
  return p

end LineGrammar
