/-! # Text and its pieces

Text is the list of its characters.  This module cuts text into lines, which keep the newline that
ends them, and removes characters from its two ends.

Cutting into lines loses nothing: the lines of a text concatenate to it (`flatten_lines`). -/

namespace LineGrammar

/-- Text, as the list of its characters. -/
abbrev Text := List Char

namespace Text

/-- The number of bytes that `t` takes in UTF-8. -/
def byteLength : Text → Nat
  | [] => 0
  | c :: t => c.utf8Size + byteLength t

def ofNat (n : Nat) : Text := Nat.toDigits 10 n

/-- An integer in decimal digits, with a minus sign in front if it is negative. -/
def ofInt : Int → Text
  | .ofNat n => ofNat n
  | .negSucc n => '-' :: ofNat (n + 1)

def copies (n : Nat) (t : Text) : Text :=
  if t.isEmpty then [] else (List.replicate n t).flatten

/-! ### The two ends -/

/-- `t` without the characters at its end that satisfy `p`. -/
def dropEndWhile (p : Char → Bool) (t : Text) : Text := (t.reverse.dropWhile p).reverse

/-- `t` without the characters at either end that satisfy `p`. -/
def trimWhile (p : Char → Bool) (t : Text) : Text := dropEndWhile p (t.dropWhile p)

/-- `t` without one `c` at its start, if there is one. -/
def stripFirst (c : Char) : Text → Text
  | [] => []
  | d :: t => if d = c then t else d :: t

/-- `t` without one `c` at its end, if there is one. -/
def stripLast (c : Char) (t : Text) : Text := (stripFirst c t.reverse).reverse

def isLineEnd (c : Char) : Bool := c == '\r' || c == '\n'

/-- `t` without all the carriage returns and newlines at its end. -/
def chomp (t : Text) : Text := dropEndWhile isLineEnd t

/-! ### Lines -/

/-- The pieces of a text cut after each newline.  No piece is empty, and a text that ends in a
newline has no further piece after it. -/
def lines : Text → List Text
  | [] => []
  | c :: t =>
    if c = '\n' then ['\n'] :: lines t
    else match lines t with
      | [] => [[c]]
      | l :: ls => (c :: l) :: ls

theorem flatten_lines (t : Text) : (lines t).flatten = t := by
  induction t with
  | nil => rfl
  | cons c t ih =>
    by_cases h : c = '\n'
    · simp [lines, h, ih]
    · cases hl : lines t <;> simp_all [lines]

end Text
end LineGrammar
