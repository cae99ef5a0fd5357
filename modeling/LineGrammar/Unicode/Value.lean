import LineGrammar.Text.CharSet

/-! # Values of properties

The value of a property is a set of characters with its names.  Names are compared loosely: case,
spaces, hyphens and underscores do not count in them, nor does an `is` that they start with. -/

namespace LineGrammar.Unicode

/-- A set of characters with the names that a property gives to it. -/
structure Value where
  names : List String
  members : CharSet

def startsWithIs : Text → Bool
  | a :: b :: _ => a.toLower == 'i' && b.toLower == 's'
  | _ => false

/-- The characters of a name that count, in lower case. -/
def countingCharacters (name : Text) : Text :=
  (name.filter fun c => c.toNat < 0x80 && c != ' ' && c != '_' && c != '-').map Char.toLower

/-- A name as it is compared.  The abbreviation `isc` is the one name that keeps its start. -/
def looseName (name : Text) : Text :=
  if startsWithIs name then
    match countingCharacters (name.drop 2) with
    | ['c'] => ['i', 's', 'c']
    | rest => rest
  else countingCharacters name

/-- Whether one of several names is the same as `name`, which is given as it is compared. -/
def isAmong (name : Text) (names : List String) : Bool :=
  names.any fun n => looseName n.toList == name

/-- The value with a name, which is given as it is compared. -/
def findValue? (name : Text) (values : List Value) : Option Value :=
  values.find? fun v => isAmong name v.names

end LineGrammar.Unicode
