import LineGrammar.Json

/-! # A reader of JSON texts

The value that a JSON text stands for.  The reader knows all of JSON: white space between the parts,
the words `null`, `true` and `false`, numbers, strings with all their escapes, arrays, and objects,
in which a name that comes a second time replaces the value that it had.  Nothing but white space
may stand around the value.

Readers take a text and answer with what they have read and the rest of the text.  `readItems` reads
what stands between two brackets, whatever the items are. -/

namespace LineGrammar.Json

/-- The white space of JSON. -/
def isBlank (c : Char) : Bool := c = ' ' ∨ c = '\t' ∨ c = '\n' ∨ c = '\r'

def skipBlanks (t : Text) : Text := t.dropWhile isBlank

/-! ### Words and numbers -/

/-- The characters that words and numbers are made of. -/
def isWordChar (c : Char) : Bool := c.isAlphanum ∨ c = '-' ∨ c = '+' ∨ c = '.'

/-- Whether `t` is empty or an exponent. -/
def isExponent : Text → Bool
  | [] => true
  | c :: t =>
    let digits := if t.head? = some '-' ∨ t.head? = some '+' then t.tail else t
    (c = 'e' ∨ c = 'E') ∧ digits ≠ [] ∧ digits.all Char.isDigit

/-- Whether `t` is a fraction, which may be missing, and an exponent, which may be missing. -/
def isFraction (t : Text) : Bool :=
  if t.head? = some '.' then
    t.tail.takeWhile Char.isDigit ≠ [] ∧ isExponent (t.tail.dropWhile Char.isDigit)
  else isExponent t

/-- Whether `t` is a number.  Its integer has no needless zero in front. -/
def isNumber (t : Text) : Bool :=
  let t := Text.stripFirst '-' t
  let integer := t.takeWhile Char.isDigit
  integer ≠ [] ∧ (integer.head? = some '0' → integer = ['0']) ∧
    isFraction (t.dropWhile Char.isDigit)

/-- The value of a word or a number. -/
def ofWord? (t : Text) : Option Json :=
  if t = "null".toList then some null
  else if t = word true then some (bool true)
  else if t = word false then some (bool false)
  else if isNumber t then some (number t)
  else none

def readWord (t : Text) : Option (Json × Text) :=
  (ofWord? (t.takeWhile isWordChar)).map fun v => (v, t.dropWhile isWordChar)

def hexValue? (c : Char) : Option Nat :=
  if '0' ≤ c ∧ c ≤ '9' then some (c.toNat - '0'.toNat)
  else if 'a' ≤ c ∧ c ≤ 'f' then some (c.toNat - 'a'.toNat + 10)
  else if 'A' ≤ c ∧ c ≤ 'F' then some (c.toNat - 'A'.toNat + 10)
  else none

def readUnit : Text → Option (Nat × Text)
  | a :: b :: c :: d :: t => do
    let digits ← [a, b, c, d].mapM hexValue?
    return (digits.foldl (fun n digit => 16 * n + digit) 0, t)
  | _ => none

/-- The character behind `\u`.  A character beyond U+FFFF is written as two surrogates. -/
def readCodePoint (t : Text) : Option (Char × Text) := do
  let (high, t) ← readUnit t
  if 0xd800 ≤ high ∧ high < 0xdc00 then
    match t with
    | '\\' :: 'u' :: t =>
      let (low, t) ← readUnit t
      if 0xdc00 ≤ low ∧ low < 0xe000 then
        return (Char.ofNat (0x10000 + 0x400 * (high - 0xd800) + (low - 0xdc00)), t)
      else none
    | _ => none
  else if 0xdc00 ≤ high ∧ high < 0xe000 then none
  else return (Char.ofNat high, t)

/-- The character that a backslash and `c` stand for. -/
def ofEscape? (c : Char) : Option Char :=
  if c = '"' ∨ c = '\\' ∨ c = '/' then some c
  else if c = 'b' then some '\x08'
  else if c = 'f' then some '\x0c'
  else if c = 'n' then some '\n'
  else if c = 'r' then some '\r'
  else if c = 't' then some '\t'
  else none

/-- One character of a string.  A control character must be written as an escape. -/
def readChar : Text → Option (Char × Text)
  | [] => none
  | c :: t =>
    if c = '\\' then
      match t with
      | [] => none
      | d :: t => if d = 'u' then readCodePoint t else (ofEscape? d).map (·, t)
    else if c.toNat < 0x20 then none
    else some (c, t)

/-- The content of a string of less than `n` characters, up to the closing quote. -/
def readContent : Nat → Text → Option (Text × Text)
  | 0, _ => none
  | n + 1, t =>
    if t.head? = some '"' then some ([], t.tail)
    else do
      let (c, t) ← readChar t
      let (s, t) ← readContent n t
      return (c :: s, t)

/-! ### Values -/

section items

variable {α : Type} (item : Text → Option (α × Text)) (close : Char)

/-- At most `n` items with commas between them, of which there is at least one, and what closes
them. -/
def readItems : Nat → Text → Option (List α × Text)
  | 0, _ => none
  | n + 1, t => do
    let (a, t) ← item t
    match skipBlanks t with
    | [] => none
    | c :: t =>
      if c = close then return ([a], t)
      else if c = ',' then
        let (as, t) ← readItems n t
        return (a :: as, t)
      else none

/-- Any number of items with commas between them, and what closes them. -/
def readList (t : Text) : Option (List α × Text) :=
  if (skipBlanks t).head? = some close then some ([], (skipBlanks t).tail)
  else readItems item close t.length t

end items

/-- A member of an object, of which `value` reads the value. -/
def readMember (value : Text → Option (Json × Text)) (t : Text) :
    Option ((Text × Json) × Text) :=
  match skipBlanks t with
  | '"' :: t => do
    let (name, t) ← readContent t.length t
    match skipBlanks t with
    | ':' :: t =>
      let (v, t) ← value t
      return ((name, v), t)
    | _ => none
  | _ => none

/-- A value with less than `n` brackets around one another, and the white space before it. -/
def readValue : Nat → Text → Option (Json × Text)
  | 0, _ => none
  | n + 1, t =>
    match skipBlanks t with
    | [] => none
    | c :: t =>
      if c = '"' then (readContent t.length t).map fun (s, t) => (string s, t)
      else if c = '[' then
        (readList (readValue n) ']' t).map fun (items, t) => (array items, t)
      else if c = '{' then
        (readList (readMember (readValue n)) '}' t).map fun (members, t) =>
          (object (setMembers members), t)
      else readWord (c :: t)

def read (t : Text) : Option Json :=
  match readValue (t.length + 1) t with
  | some (v, rest) => if skipBlanks rest = [] then some v else none
  | none => none

end LineGrammar.Json
