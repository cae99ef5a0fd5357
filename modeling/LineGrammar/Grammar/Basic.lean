import LineGrammar.Symbol
import Std.Data.TreeMap

/-! # Grammars

A grammar is a list of rules in the order of their declaration, with distinct names.  Beside the
rules it keeps the position of each name, so a rule is found without a search.  That the positions
are the right ones is part of the type (`position_iff`), from which the names are distinct
(`name_injective`).

Reading and changing a rule both go through its name.  Changing the alternatives of a name that is
not declared yet declares it (`alter`). -/

namespace LineGrammar

/-- A rule: its name and the alternatives that it may be replaced by. -/
structure Rule where
  name : Text
  alternatives : List Alternative := []
  deriving DecidableEq, Repr

/-- A context-free grammar, with its rules in the order of their declaration. -/
structure Grammar where
  rules : Array Rule := #[]
  positions : Std.TreeMap Text Nat := {}
  position_iff : ∀ (name : Text) (i : Nat),
    positions[name]? = some i ↔ rules[i]?.map Rule.name = some name := by simp

namespace Grammar

def empty : Grammar := {}

variable (g : Grammar)

/-- No two rules have the same name. -/
theorem name_injective {i j : Nat} {name : Text} (hi : g.rules[i]?.map Rule.name = some name)
    (hj : g.rules[j]?.map Rule.name = some name) : i = j := by
  rw [← g.position_iff] at hi hj
  simpa [hi] using hj

/-! ### Reading -/

def size : Nat := g.rules.size

def isEmpty : Bool := g.rules.isEmpty

def alternativeCount : Nat := (g.rules.toList.flatMap Rule.alternatives).length

/-- The alternatives of the rule `name`, if it is declared. -/
def alternatives? (name : Text) : Option (List Alternative) :=
  g.positions[name]?.bind fun i => g.rules[i]?.map Rule.alternatives

/-- Adds a rule of a new name at the end, without alternatives. -/
def addRule (name : Text) (new : g.positions[name]? = none) : Grammar where
  rules := g.rules.push { name }
  positions := g.positions.insert name g.rules.size
  position_iff other i := by
    have old := g.position_iff other i
    rw [Std.TreeMap.getElem?_insert, Array.getElem?_push]
    by_cases hn : name = other
    · subst hn
      have fresh : ∀ j, g.rules[j]?.map Rule.name ≠ some name := fun j hj => by
        rw [← g.position_iff, new] at hj
        cases hj
      by_cases hi : i = g.rules.size
      · simp [hi]
      · simp only [Std.compare_self, if_true, Option.some.injEq, hi, if_false]
        exact ⟨fun h => absurd h.symm hi, fun h => absurd h (fresh i)⟩
    · rw [if_neg (by simpa [Std.compare_eq_iff_eq] using hn), old]
      by_cases hi : i = g.rules.size
      · simp [hi, hn]
      · simp [hi]

/-- The position of the rule `name`, which is added at the end if it is not declared yet. -/
def declare (name : Text) : Nat × Grammar :=
  match h : g.positions[name]? with
  | some i => (i, g)
  | none => (g.rules.size, g.addRule name h)

/-- Changes the alternatives of the rule at position `i`. -/
def modify (i : Nat) (f : List Alternative → List Alternative) : Grammar where
  rules := g.rules.modify i fun r => { r with alternatives := f r.alternatives }
  positions := g.positions
  position_iff name j := by
    rw [g.position_iff, Array.getElem?_modify]
    by_cases hi : i = j
    · simp [hi, Option.map_map, Function.comp_def]
    · simp [hi]

/-- Declares the rule `name` and changes its alternatives by `f`, which may also answer something
about them. -/
def alter {α : Type} (name : Text) (f : List Alternative → α × List Alternative) : α × Grammar :=
  let (i, g) := g.declare name
  let now := (g.rules[i]?.map Rule.alternatives).getD []
  ((f now).1, g.modify i fun _ => (f now).2)

/-- Declares the rule `name` and adds alternatives at its end. -/
def extend (name : Text) (added : List Alternative) : Grammar :=
  (g.alter name fun now => ((), now ++ added)).2

end Grammar
end LineGrammar
