import LineGrammar.Pattern.Reader.Escape

/-! # Character classes in patterns

A class holds characters, ranges, named classes, classes of its own, and operations on what stands
to the left and to the right of them.  The reader of a class calls itself for the classes in it and
carries a bound on the calls; a call is made only after a character was read, so the length of the
text is enough (`readClass`). -/

namespace LineGrammar.Written

def asciiClasses : List (Text × AsciiClass) :=
  [("alnum".toList, .alnum), ("alpha".toList, .alpha), ("ascii".toList, .ascii),
    ("blank".toList, .blank), ("cntrl".toList, .cntrl), ("digit".toList, .digit),
    ("graph".toList, .graph), ("lower".toList, .lower), ("print".toList, .print),
    ("punct".toList, .punct), ("space".toList, .space), ("upper".toList, .upper),
    ("word".toList, .word), ("xdigit".toList, .xdigit)]

/-- A class such as `[:digit:]`, after its opening bracket, if there is one. -/
def asciiClass? (t : Text) : Option (ClassItem × Text) :=
  match t with
  | ':' :: t =>
    let (negated, t) := match t with
      | '^' :: t => (true, t)
      | t => (false, t)
    match t.dropWhile (· != ':') with
    | ':' :: ']' :: rest =>
      (asciiClasses.lookup (t.takeWhile (· != ':'))).map fun c => (.ascii c negated, rest)
    | _ => none
  | _ => none

def readClassElement (verbose : Bool) : Text → Except PatternFault (Element × Text)
  | [] => .error .classUnclosed
  | '\\' :: t => readEscape verbose t
  | c :: t => .ok (.literal { char := c }, t)

def Element.toClassItem : Element → Except PatternFault ClassItem
  | literal l => .ok (.literal l)
  | shorthand s negated => .ok (.shorthand s negated)
  | property query negated => .ok (.property query negated)
  | dot | anchor _ => .error .classEscape

def Element.toRangeEnd : Element → Except PatternFault Literal
  | literal l => .ok l
  | _ => .error .classRangeLiteral

/-- One item of a class that is not a class itself: a character, or a range of them.  A hyphen
before a closing bracket or before another hyphen makes no range. -/
def readClassItem (verbose : Bool) (t : Text) : Except PatternFault (ClassItem × Text) := do
  let (first, t) ← readClassElement verbose t
  let t := skip verbose t
  match t with
  | [] => .error .classUnclosed
  | '-' :: afterHyphen =>
    if peek verbose t == some ']' || peek verbose t == some '-' then
      return (← first.toClassItem, t)
    let (last, rest) ← readClassElement verbose (skip verbose afterHyphen)
    let a ← first.toRangeEnd
    let b ← last.toRangeEnd
    if a.char ≤ b.char then return (.range a b, rest) else .error .classRange
  | _ => return (← first.toClassItem, t)

/-- The hyphens at the start of a class, which stand for themselves. -/
def takeHyphens (verbose : Bool) : (fuel : Nat) → Text → List ClassItem × Text
  | fuel + 1, '-' :: t =>
    let (items, rest) := takeHyphens verbose fuel (skip verbose t)
    (.literal { char := '-' } :: items, rest)
  | _, t => ([], t)

/-- The start of a class, after its bracket: whether it is negated, and the hyphens or the closing
bracket that stand for themselves. -/
def readClassStart (verbose : Bool) (fuel : Nat) (t : Text) :
    Except PatternFault (Bool × List ClassItem × Text) :=
  let t := skip verbose t
  let (negated, t) := match t with
    | '^' :: t => (true, skip verbose t)
    | t => (false, t)
  let (hyphens, t) := takeHyphens verbose fuel t
  let (items, t) := match hyphens, t with
    | [], ']' :: t => ([ClassItem.literal { char := ']' }], skip verbose t)
    | _, _ => (hyphens, t)
  if t.isEmpty then .error .classUnclosed else .ok (negated, items, t)

/-- The set that ends here: the items since the last operation, the latest first, and the set to
the left of that operation if there is one. -/
def closeSet (left : Option (SetOperation × ClassItem)) (items : List ClassItem) : ClassItem :=
  match left with
  | some (op, l) => .operation op l (.ofItems items.reverse)
  | none => .ofItems items.reverse

/-- The items of a class up to its closing bracket.  `items` are those since the last operation,
the latest first. -/
def readClassItems (verbose : Bool) : (fuel : Nat) → Option (SetOperation × ClassItem) →
    List ClassItem → Text → Except PatternFault (ClassItem × Text)
  | 0, _, _, _ => .error .classUnclosed
  | fuel + 1, left, items, t =>
    let operation (op : SetOperation) (t : Text) :=
      readClassItems verbose fuel (some (op, closeSet left items)) [] t
    match skip verbose t with
    | [] => .error .classUnclosed
    | ']' :: t => .ok (closeSet left items, t)
    | '&' :: '&' :: t => operation .intersection t
    | '-' :: '-' :: t => operation .difference t
    | '~' :: '~' :: t => operation .symmetricDifference t
    | '[' :: t =>
      match asciiClass? t with
      | some (item, t) => readClassItems verbose fuel left (item :: items) t
      | none => do
        let (negated, start, t) ← readClassStart verbose fuel t
        let (body, t) ← readClassItems verbose fuel none start.reverse t
        readClassItems verbose fuel left (.bracketed negated body :: items) t
    | t => do
      let (item, t) ← readClassItem verbose t
      readClassItems verbose fuel left (item :: items) t

def readClass (verbose : Bool) (fuel : Nat) (t : Text) : Except PatternFault (Tree × Text) := do
  let (negated, start, t) ← readClassStart verbose fuel t
  let (body, t) ← readClassItems verbose fuel none start.reverse t
  return (.bracketed negated body, t)

end LineGrammar.Written
