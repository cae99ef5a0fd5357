import LineGrammar.Text.Basic

/-! # JSON values

The values that JSON texts stand for, and their two written forms: without any white space, and
with each item on a line of its own, indented by its depth.  A number is kept as it is written.  An
object keeps its members in the order in which their names first came in; giving a name a second
value replaces the first value where it stands (`setMember`). -/

namespace LineGrammar

inductive Json where
  | null
  | bool (value : Bool)
  | number (literal : Text)
  | string (content : Text)
  | array (items : List Json)
  | object (members : List (Text × Json))

namespace Json

/-- Gives the member `name` the value `value`, in its place if there is such a member and at the
end otherwise. -/
def setMember (name : Text) (value : Json) : List (Text × Json) → List (Text × Json)
  | [] => [(name, value)]
  | (other, v) :: members =>
    if other = name then (name, value) :: members
    else (other, v) :: setMember name value members

/-- The members of an object that is given names and values one after another. -/
def setMembers (entries : List (Text × Json)) : List (Text × Json) :=
  entries.foldl (fun members e => setMember e.1 e.2 members) []

/-- How `c` is written in a JSON string. -/
def escape (c : Char) : Text :=
  if c = '"' then ['\\', '"']
  else if c = '\\' then ['\\', '\\']
  else if c = '\x08' then ['\\', 'b']
  else if c = '\x0c' then ['\\', 'f']
  else if c = '\n' then ['\\', 'n']
  else if c = '\r' then ['\\', 'r']
  else if c = '\t' then ['\\', 't']
  else if c.toNat < 0x20 then
    ['\\', 'u', '0', '0', Nat.digitChar (c.toNat / 16), Nat.digitChar (c.toNat % 16)]
  else [c]

def quote (t : Text) : Text := '"' :: (t.flatMap escape ++ ['"'])

def word (b : Bool) : Text := if b then "true".toList else "false".toList

/-! ### The compact form -/

mutual

/-- A value without white space. -/
def compact : Json → Text
  | null => "null".toList
  | bool b => word b
  | number t => t
  | string t => quote t
  | array [] => ['[', ']']
  | array (v :: vs) => '[' :: (v.compact ++ compactItems vs)
  | object [] => ['{', '}']
  | object ((k, v) :: ms) => '{' :: (quote k ++ [':'] ++ v.compact ++ compactMembers ms)

def compactItems : List Json → Text
  | [] => [']']
  | v :: vs => ',' :: (v.compact ++ compactItems vs)

def compactMembers : List (Text × Json) → Text
  | [] => ['}']
  | (k, v) :: ms => ',' :: (quote k ++ [':'] ++ v.compact ++ compactMembers ms)

end

/-! ### The indented form -/

/-- A new line at some depth. -/
def newline (indent : Text) (depth : Nat) : Text := '\n' :: (List.replicate depth indent).flatten

mutual

/-- A value whose items stand on lines of their own, with `indent` for each level of depth.  An
empty array or object stays on its line. -/
def pretty (indent : Text) (depth : Nat) : Json → Text
  | null => "null".toList
  | bool b => word b
  | number t => t
  | string t => quote t
  | array [] => ['[', ']']
  | array (v :: vs) =>
    '[' :: (newline indent (depth + 1) ++ v.pretty indent (depth + 1) ++
      prettyItems indent depth vs)
  | object [] => ['{', '}']
  | object ((k, v) :: ms) =>
    '{' :: (newline indent (depth + 1) ++ quote k ++ [':', ' '] ++ v.pretty indent (depth + 1) ++
      prettyMembers indent depth ms)

def prettyItems (indent : Text) (depth : Nat) : List Json → Text
  | [] => newline indent depth ++ [']']
  | v :: vs =>
    ',' :: (newline indent (depth + 1) ++ v.pretty indent (depth + 1) ++
      prettyItems indent depth vs)

def prettyMembers (indent : Text) (depth : Nat) : List (Text × Json) → Text
  | [] => newline indent depth ++ ['}']
  | (k, v) :: ms =>
    ',' :: (newline indent (depth + 1) ++ quote k ++ [':', ' '] ++ v.pretty indent (depth + 1) ++
      prettyMembers indent depth ms)

end

end Json
end LineGrammar
