import LineGrammar.Text.Basic

/-! # Blank characters

The characters with the Unicode property `White_Space`, and text without them at its ends. -/

namespace LineGrammar.Text

/-- Whether `c` has the Unicode property `White_Space`, which 25 characters have. -/
def isBlank (c : Char) : Bool :=
  let n := c.toNat
  (9 ≤ n && n ≤ 13) || n == 0x20 || n == 0x85 || n == 0xa0 || n == 0x1680 ||
    (0x2000 ≤ n && n ≤ 0x200a) || n == 0x2028 || n == 0x2029 || n == 0x202f || n == 0x205f ||
    n == 0x3000

/-- `t` without the blanks at its two ends. -/
def trim (t : Text) : Text := trimWhile isBlank t

end LineGrammar.Text
