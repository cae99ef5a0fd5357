import LineGrammar.Pattern.Reader.Number
import LineGrammar.Pattern.Tree

/-! # Escapes in patterns

What a backslash makes of the characters after it: a character, a class, a property, an anchor or a
word boundary.  The same escapes are read inside and outside of character classes; that some of them
stand for no character matters only inside. -/

namespace LineGrammar.Written

/-- What one escape or one other character stands for. -/
inductive Element where
  | literal (l : Literal)
  | dot
  | anchor (m : Mark)
  | shorthand (s : Shorthand) (negated : Bool)
  | property (query : PropertyQuery) (negated : Bool)

def Element.toTree : Element → Tree
  | literal l => .literal l
  | dot => .dot
  | anchor m => .anchor m
  | shorthand s negated => .shorthand s negated
  | property query negated => .property query negated

/-- A text cut at the first place where `separator` stands, which is left out. -/
def cutAt? (separator : Text) : Text → Option (Text × Text)
  | [] => none
  | c :: t =>
    if separator.isPrefixOf (c :: t) then some ([], (c :: t).drop separator.length)
    else (cutAt? separator t).map fun (before, after) => (c :: before, after)

/-- What stands in the braces after the letter that asks for a property, and whether the characters
without it are meant.  The name of a value follows `!=`, which asks for those that have another
value, or a colon or an equals sign; the first of the three that the text holds anywhere is the one
that counts. -/
def PropertyQuery.ofText (t : Text) : PropertyQuery × Bool :=
  match cutAt? ['!', '='] t, cutAt? [':'] t <|> cutAt? ['='] t with
  | some (property, value), _ => (valued property value, true)
  | none, some (property, value) => (valued property value, false)
  | none, none => (named t, false)

/-- A property's name, after the letter that asks for it: one character, or what stands in
braces. -/
def readProperty (verbose negated : Bool) (t : Text) : Except PatternFault (Element × Text) :=
  match skip verbose t with
  | [] => .error .escapeUnfinished
  | '{' :: t =>
    match takeUntil (· == '}') verbose false t with
    | (_, []) => .error .escapeUnfinished
    | (text, _ :: rest) =>
      let (query, others) := PropertyQuery.ofText text
      .ok (.property query (negated != others), rest)
  | c :: t =>
    if c = '\\' then .error .propertyMissing
    else .ok (.property (.named [c]) negated, skip verbose t)

def boundaryKinds : List (Text × Boundary) :=
  [("start".toList, .start), ("end".toList, .finish), ("start-half".toList, .startHalf),
    ("end-half".toList, .finishHalf)]

/-- What stands in braces after a word boundary.  If the braces hold a count, they are left to be
read as a repetition. -/
def readBoundary (verbose : Bool) (t : Text) : Except PatternFault (Element × Text) :=
  let isKind (c : Char) : Bool := c.isAlpha || c == '-'
  match t with
  | '{' :: inner =>
    match skip verbose inner with
    | [] => .error .boundaryUnfinished
    | c :: inner =>
      if isKind c then
        match takeUntil (fun c => !isKind c && !(verbose && (Text.isBlank c || c == '#'))) verbose
            false (c :: inner) with
        | (kind, '}' :: rest) =>
          match boundaryKinds.lookup kind with
          | some b => .ok (.anchor (.word b), rest)
          | none => .error .boundaryUnknown
        | _ => .error .boundaryUnclosed
      else .ok (.anchor (.word .edge), t)
  | _ => .ok (.anchor (.word .edge), t)

/-- The characters that mean something in a pattern, and stand for themselves after a
backslash. -/
def isMeta (c : Char) : Bool := "\\.+*?()|[]\x7b\x7d^$#&-~".toList.contains c

/-- Whether a backslash before `c` changes nothing. -/
def isPlainEscape (c : Char) : Bool :=
  isMeta c || (c.toNat < 0x80 && !c.isAlphanum && c != '<' && c != '>')

def readEscape (verbose : Bool) : Text → Except PatternFault (Element × Text)
  | [] => .error .escapeUnfinished
  | c :: t =>
    let char (c : Char) : Except PatternFault (Element × Text) := .ok (.literal { char := c }, t)
    if c.isDigit then .error .backreference
    else if isPlainEscape c then char c
    else match c with
      | 'x' => do
        let (char, rest) ← readHex verbose 2 t
        return (.literal { char, isByte := (skip verbose t).head? != some '{' }, rest)
      | 'u' => do
        let (char, rest) ← readHex verbose 4 t
        return (.literal { char }, rest)
      | 'U' => do
        let (char, rest) ← readHex verbose 8 t
        return (.literal { char }, rest)
      | 'p' => readProperty verbose false t
      | 'P' => readProperty verbose true t
      | 'd' => .ok (.shorthand .digit false, t)
      | 'D' => .ok (.shorthand .digit true, t)
      | 's' => .ok (.shorthand .space false, t)
      | 'S' => .ok (.shorthand .space true, t)
      | 'w' => .ok (.shorthand .word false, t)
      | 'W' => .ok (.shorthand .word true, t)
      | 'a' => char '\x07'
      | 'f' => char '\x0c'
      | 't' => char '\t'
      | 'n' => char '\n'
      | 'r' => char '\r'
      | 'v' => char '\x0b'
      | 'b' => readBoundary verbose t
      | 'A' => .ok (.anchor .textStart, t)
      | 'z' => .ok (.anchor .textEnd, t)
      | 'B' => .ok (.anchor (.word .noEdge), t)
      | '<' => .ok (.anchor (.word .start), t)
      | '>' => .ok (.anchor (.word .finish), t)
      | _ => .error .escapeUnknown

end LineGrammar.Written
