import LineGrammar.Pattern.Fault
import LineGrammar.Text.Blank

/-! # Blanks, comments and numbers in patterns

The parts that the readers of patterns share.  Each reader takes the text that is left and answers
with what it has read and the text after it.  In verbose mode blanks and comments do not count
between the elements of a pattern, nor between the digits of a number. -/

namespace LineGrammar.Written

/-- `t` without the blanks and the comments that it starts with.  A comment starts with a hash sign
and ends with its line. -/
def skipBlanks (inComment : Bool) : Text → Text
  | [] => []
  | c :: t =>
    if inComment then skipBlanks (c != '\n') t
    else if Text.isBlank c then skipBlanks false t
    else if c = '#' then skipBlanks true t
    else c :: t

/-- `t` without what does not count at its start. -/
def skip (verbose : Bool) (t : Text) : Text := if verbose then skipBlanks false t else t

/-- The characters of `t` up to a stop, without those that do not count, and the text from the stop
on.  A stop that `t` does not contain is its end. -/
def takeUntil (stop : Char → Bool) (verbose inComment : Bool) : Text → Text × Text
  | [] => ([], [])
  | c :: t =>
    if inComment then takeUntil stop verbose (c != '\n') t
    else if stop c then ([], c :: t)
    else if verbose && Text.isBlank c then takeUntil stop verbose false t
    else if verbose && c == '#' then takeUntil stop verbose true t
    else
      let (taken, rest) := takeUntil stop verbose false t
      (c :: taken, rest)

/-- The character that follows the first one of `t`, past what does not count.  Only the hash sign
of a comment is passed over, not what the comment holds. -/
def peek (verbose : Bool) (t : Text) : Option Char :=
  let t := t.drop 1
  if verbose then
    match t.dropWhile Text.isBlank with
    | '#' :: rest => (rest.dropWhile Text.isBlank).head? <|> t.head?
    | [] => t.head?
    | c :: _ => some c
  else t.head?

/-! ### Numbers -/

def hexDigit? (c : Char) : Option Nat :=
  if '0' ≤ c ∧ c ≤ '9' then some (c.toNat - 0x30)
  else if 'a' ≤ c ∧ c ≤ 'f' then some (c.toNat - 0x61 + 10)
  else if 'A' ≤ c ∧ c ≤ 'F' then some (c.toNat - 0x41 + 10)
  else none

def hexNumber? (digits : Text) : Except PatternFault Nat :=
  digits.foldlM (fun n c => match hexDigit? c with
    | some d => .ok (n * 16 + d)
    | none => .error .hexDigit) 0

def charOf (n : Nat) : Except PatternFault Char :=
  if n.isValidChar then .ok (Char.ofNat n) else .error .hexCharacter

/-- Exactly `count` hexadecimal digits, as a number. -/
def readHexDigits (verbose : Bool) : (count : Nat) → Nat → Text → Except PatternFault (Nat × Text)
  | 0, n, t => .ok (n, t)
  | _ + 1, _, [] => .error .escapeUnfinished
  | count + 1, n, c :: t =>
    match hexDigit? c with
    | some d => readHexDigits verbose count (n * 16 + d) (skip verbose t)
    | none => .error .hexDigit

/-- A character by its code point, after the letter that says how many digits there are.  Any
number of digits may stand in braces. -/
def readHex (verbose : Bool) (count : Nat) (t : Text) : Except PatternFault (Char × Text) :=
  match skip verbose t with
  | [] => .error .escapeUnfinished
  | '{' :: t => do
    let (digits, rest) := takeUntil (· == '}') verbose false t
    let n ← hexNumber? digits
    match rest with
    | [] => .error .escapeUnfinished
    | _ :: rest =>
      if digits.isEmpty then .error .hexEmpty
      else return (← charOf n, skip verbose rest)
  | t => do
    let (n, rest) ← readHexDigits verbose count 0 t
    return (← charOf n, rest)

def countLimit : Nat := 4294967296

/-- The number of a repetition, with the blanks around it, and the text after it. -/
def readCount (verbose : Bool) (t : Text) : Except PatternFault Nat × Text :=
  let (digits, rest) :=
    takeUntil (fun c => !c.isDigit && !(verbose && (Text.isBlank c || c == '#'))) verbose false
      (t.dropWhile Text.isBlank)
  let n := digits.foldl (fun n c => n * 10 + (c.toNat - 0x30)) 0
  let count :=
    if digits.isEmpty then .error .countMissing
    else if n < countLimit then .ok n
    else .error .countTooLarge
  (count, skip verbose (rest.dropWhile Text.isBlank))

end LineGrammar.Written
