import LineGrammar.Proofs.Grammar.Rules

/-! # Rules in a list that is searched from the front

A grammar finds a rule by the position that it keeps for the name.  On a plain list of rules the
same operations can be done without positions, by a search from the front (`RuleList`).  Every
operation on a grammar answers what it answers on the list of its rules, and leaves the rules that
it leaves there (`RuleList.perform_rules`). -/

namespace LineGrammar

namespace Grammar

/-- What can be done with a grammar. -/
inductive Operation where
  | declare (name : Text)
  | alter (name : Text) (change : List Alternative → List Alternative)
  | alternatives (name : Text)
  | rules
  | size
  | isEmpty
  | alternativeCount

/-- The answer to an operation. -/
inductive Answer where
  | position (i : Nat)
  | alternatives (found : Option (List Alternative))
  | rules (rules : List Rule)
  | count (n : Nat)
  | truth (holds : Bool)
  deriving DecidableEq, Repr

/-- The answer to an operation, and the grammar after it. -/
def perform (g : Grammar) : Operation → Answer × Grammar
  | .declare name => (.position (g.declare name).1, (g.declare name).2)
  | .alter name change =>
    let altered := g.alter name fun now => (now, change now)
    (.alternatives (some altered.1), altered.2)
  | .alternatives name => (.alternatives (g.alternatives? name), g)
  | .rules => (.rules g.rules.toList, g)
  | .size => (.count g.size, g)
  | .isEmpty => (.truth g.isEmpty, g)
  | .alternativeCount => (.count g.alternativeCount, g)

end Grammar

namespace RuleList

/-! ### Searching from the front -/

/-- The position of the rule of a name, which is added at the end if no rule has the name. -/
def declare (name : Text) : List Rule → Nat × List Rule
  | [] => (0, [{ name }])
  | r :: rules =>
    if r.name = name then (0, r :: rules)
    else
      let (i, rules) := declare name rules
      (i + 1, r :: rules)

/-- The alternatives of the rule of a name and the rules with those alternatives changed.  A rule is
added at the end if no rule has the name. -/
def alter (name : Text) (change : List Alternative → List Alternative) :
    List Rule → List Alternative × List Rule
  | [] => ([], [{ name, alternatives := change [] }])
  | r :: rules =>
    if r.name = name then
      (r.alternatives, { r with alternatives := change r.alternatives } :: rules)
    else
      let (now, rules) := alter name change rules
      (now, r :: rules)

def alternatives? (name : Text) : List Rule → Option (List Alternative)
  | [] => none
  | r :: rules => if r.name = name then some r.alternatives else alternatives? name rules

def alternativeCount : List Rule → Nat
  | [] => 0
  | r :: rules => r.alternatives.length + alternativeCount rules

/-- The answer to an operation, and the rules after it. -/
def perform (rules : List Rule) : Grammar.Operation → Grammar.Answer × List Rule
  | .declare name => (.position (declare name rules).1, (declare name rules).2)
  | .alter name change =>
    (.alternatives (some (alter name change rules).1), (alter name change rules).2)
  | .alternatives name => (.alternatives (alternatives? name rules), rules)
  | .rules => (.rules rules, rules)
  | .size => (.count rules.length, rules)
  | .isEmpty => (.truth rules.isEmpty, rules)
  | .alternativeCount => (.count (alternativeCount rules), rules)

variable {name : Text} {rules : List Rule}

theorem declare_of_mem (h : name ∈ rules.map Rule.name) :
    declare name rules = ((rules.map Rule.name).idxOf name, rules) := by
  induction rules with
  | nil => exact (nomatch h)
  | cons r rules ih =>
      rw [List.map_cons, List.mem_cons] at h
      rw [declare, List.map_cons]
      by_cases hr : r.name = name
      · rw [if_pos hr, hr, List.idxOf_cons_self]
      · rw [if_neg hr, ih (h.resolve_left (Ne.symm hr)), List.idxOf_cons_ne _ hr]

theorem declare_of_not_mem (h : name ∉ rules.map Rule.name) :
    declare name rules = (rules.length, rules ++ [Rule.bare name]) := by
  induction rules with
  | nil => rfl
  | cons r rules ih =>
      rw [List.map_cons, List.mem_cons, not_or] at h
      rw [declare, if_neg (Ne.symm h.1), ih h.2]
      rfl

theorem alternatives?_of_not_mem (h : name ∉ rules.map Rule.name) :
    alternatives? name rules = none := by
  induction rules with
  | nil => rfl
  | cons r rules ih =>
      rw [List.map_cons, List.mem_cons, not_or] at h
      rw [alternatives?, if_neg (Ne.symm h.1), ih h.2]

/-- Where no two rules have the same name, the rule that is found is the only one of its name. -/
theorem alternatives?_of_mem {r : Rule} (nodup : (rules.map Rule.name).Nodup) (h : r ∈ rules) :
    alternatives? r.name rules = some r.alternatives := by
  induction rules with
  | nil => exact (nomatch h)
  | cons s rules ih =>
      rw [List.map_cons, List.nodup_cons] at nodup
      rw [alternatives?]
      rcases List.mem_cons.mp h with rfl | h
      · rw [if_pos rfl]
      · have hs : s.name ≠ r.name := fun hs =>
          nodup.1 (hs ▸ List.mem_map_of_mem h)
        rw [if_neg hs, ih nodup.2 h]

theorem alter_fst (change : List Alternative → List Alternative) :
    (alter name change rules).1 = (alternatives? name rules).getD [] := by
  induction rules with
  | nil => rfl
  | cons r rules ih =>
      rw [alter, alternatives?]
      by_cases hr : r.name = name
      · simp [hr]
      · simp [hr, ih]

theorem alter_of_not_mem (change : List Alternative → List Alternative)
    (h : name ∉ rules.map Rule.name) :
    (alter name change rules).2 = rules ++ [{ name, alternatives := change [] }] := by
  induction rules with
  | nil => rfl
  | cons r rules ih =>
      rw [List.map_cons, List.mem_cons, not_or] at h
      rw [alter, if_neg (Ne.symm h.1)]
      exact congrArg (r :: ·) (ih h.2)

theorem map_of_not_mem {f : Rule → Rule} (h : name ∉ rules.map Rule.name) :
    (rules.map fun r => if r.name = name then f r else r) = rules := by
  refine (List.map_congr_left fun r hr => if_neg ?_).trans (List.map_id rules)
  rintro rfl
  exact h (List.mem_map_of_mem hr)

theorem alter_of_mem (change : List Alternative → List Alternative)
    (nodup : (rules.map Rule.name).Nodup) (h : name ∈ rules.map Rule.name) :
    (alter name change rules).2 = rules.map fun r =>
      if r.name = name then { r with alternatives := change r.alternatives } else r := by
  induction rules with
  | nil => exact (nomatch h)
  | cons r rules ih =>
      rw [List.map_cons, List.nodup_cons] at nodup
      rw [List.map_cons, List.mem_cons] at h
      rw [alter, List.map_cons]
      by_cases hr : r.name = name
      · -- No later rule has the name, so the others stay as they are.
        subst hr
        rw [if_pos rfl, if_pos rfl, map_of_not_mem nodup.1]
      · rw [if_neg hr, if_neg hr]
        exact congrArg (r :: ·) (ih nodup.2 (h.resolve_left (Ne.symm hr)))

theorem alternativeCount_eq (rules : List Rule) :
    alternativeCount rules = (rules.flatMap Rule.alternatives).length := by
  induction rules with
  | nil => rfl
  | cons r rules ih => rw [alternativeCount, ih, List.flatMap_cons, List.length_append]

variable (g : Grammar) (name)

theorem declare_rules :
    declare name g.rules.toList = ((g.declare name).1, (g.declare name).2.rules.toList) := by
  rw [g.declare_fst, g.rules_declare]
  by_cases h : name ∈ g.names
  · rw [g.declared_old h]
    exact declare_of_mem h
  · rw [g.declared_new h, List.idxOf_of_notMem h, Grammar.names, List.length_map]
    exact declare_of_not_mem h

theorem alternatives?_rules : alternatives? name g.rules.toList = g.alternatives? name := by
  cases h : g.alternatives? name with
  | none => exact alternatives?_of_not_mem (g.alternatives?_eq_none_iff.mp h)
  | some found => exact alternatives?_of_mem g.nodup_names (g.alternatives?_eq_some_iff.mp h)

theorem alter_rules (change : List Alternative → List Alternative) :
    alter name change g.rules.toList =
      ((g.alter name fun now => (now, change now)).1,
        (g.alter name fun now => (now, change now)).2.rules.toList) := by
  apply Prod.ext
  · rw [alter_fst, alternatives?_rules, g.alter_fst]
  · rw [g.rules_alter]
    by_cases h : name ∈ g.names
    · rw [g.declared_old h]
      exact alter_of_mem change g.nodup_names h
    · rw [g.declared_new h, List.map_append, map_of_not_mem h]
      simpa [Rule.bare] using alter_of_not_mem change h

/-- An operation on a grammar answers what it answers on the list of its rules, and leaves the rules
that it leaves there. -/
theorem perform_rules (operation : Grammar.Operation) :
    perform g.rules.toList operation =
      ((g.perform operation).1, (g.perform operation).2.rules.toList) := by
  cases operation with
  | declare name =>
      simp only [perform, Grammar.perform, declare_rules]
  | alter name change =>
      simp only [perform, Grammar.perform, alter_rules]
  | alternatives name =>
      simp only [perform, Grammar.perform, alternatives?_rules]
  | rules => rfl
  | size =>
      simp only [perform, Grammar.perform, Grammar.size, Array.length_toList]
  | isEmpty =>
      simp only [perform, Grammar.perform, Grammar.isEmpty, Array.isEmpty_toList]
  | alternativeCount =>
      simp only [perform, Grammar.perform, Grammar.alternativeCount, alternativeCount_eq]

end RuleList
end LineGrammar
