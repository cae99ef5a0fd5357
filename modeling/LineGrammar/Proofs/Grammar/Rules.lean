import LineGrammar.Grammar.Basic
import Mathlib.Data.List.Nodup

/-! # The rule list of a grammar

What the operations on a grammar do to its list of rules.  The positions that a grammar keeps beside
its rules do not show: `alter` changes the one rule of its name, which is added at the end first if
there is none (`rules_alter`).

Extending a grammar again and again keeps all rules where they are, adds the new names in the order
of their first appearance, and gives each rule the alternatives meant for it, in order
(`rules_extendAll`). -/

namespace LineGrammar

def Rule.bare (name : Text) : Rule := { name }

/-- The rule with the alternatives of all lines of its name added at its end. -/
def Rule.extended (lines : List Rule) (r : Rule) : Rule :=
  { r with
    alternatives :=
      r.alternatives ++ (lines.filter fun l => l.name = r.name).flatMap Rule.alternatives }

/-- The names that are not among the old ones, each at its first appearance. -/
def newNames (old names : List Text) : List Text := (names.filter fun n => n ∉ old).eraseDups

theorem newNames_old {old : List Text} {n : Text} (h : n ∈ old) (names : List Text) :
    newNames old (n :: names) = newNames old names := by
  simp [newNames, h]

theorem newNames_new {old : List Text} {n : Text} (h : n ∉ old) (names : List Text) :
    newNames old (n :: names) = n :: newNames (old ++ [n]) names := by
  unfold newNames
  rw [List.filter_cons_of_pos (by simpa using h), List.eraseDups_cons, List.filter_filter]
  congr 3
  funext m
  by_cases hm : m = n <;> by_cases ho : m ∈ old <;> simp [hm, ho]

theorem newNames_cons (old : List Text) (n : Text) (names : List Text) :
    newNames old (n :: names) = newNames old [n] ++ newNames (old ++ newNames old [n]) names := by
  by_cases h : n ∈ old
  · have hs : newNames old [n] = [] := newNames_old h []
    rw [newNames_old h, hs, List.append_nil, List.nil_append]
  · have hs : newNames old [n] = [n] := newNames_new h []
    rw [newNames_new h, hs, List.singleton_append]

theorem newNames_append (old as bs : List Text) :
    newNames old (as ++ bs) = newNames old as ++ newNames (old ++ newNames old as) bs := by
  induction as generalizing old with
  | nil => simp [newNames]
  | cons n as ih =>
      rw [List.cons_append, newNames_cons, ih, newNames_cons old n as]
      simp only [List.append_assoc]

theorem not_mem_of_mem_newNames {old names : List Text} {n : Text} (h : n ∈ newNames old names) :
    n ∉ old := by
  unfold newNames at h
  rw [List.mem_eraseDups, List.mem_filter] at h
  simpa using h.2

theorem mem_append_newNames {old names : List Text} {n : Text} :
    n ∈ old ++ newNames old names ↔ n ∈ old ∨ n ∈ names := by
  unfold newNames
  rw [List.mem_append, List.mem_eraseDups, List.mem_filter, decide_eq_true_eq]
  by_cases h : n ∈ old <;> simp [h]

theorem mem_append_newNames_singleton (old : List Text) (n : Text) :
    n ∈ old ++ newNames old [n] :=
  mem_append_newNames.mpr (.inr (List.mem_singleton_self n))

namespace Rule

theorem extended_nil (r : Rule) : r.extended [] = r := by simp [extended]

theorem extended_cons (l : Rule) (lines : List Rule) (r : Rule) :
    r.extended (l :: lines) = (r.extended [l]).extended lines := by
  by_cases h : l.name = r.name <;> simp [extended, h]

theorem extended_of_ne {l r : Rule} (h : l.name ≠ r.name) : r.extended [l] = r := by
  simp [extended, h]

end Rule

namespace Grammar

variable (g : Grammar)

def names : List Text := g.rules.toList.map Rule.name

/-! ### Names and positions -/

theorem getElem?_names (i : Nat) : g.names[i]? = g.rules[i]?.map Rule.name := by
  simp [names]

theorem nodup_names : g.names.Nodup := by
  rw [List.nodup_iff_getElem?_ne_getElem?]
  intro i j hij hj h
  rw [getElem?_names] at h
  obtain ⟨name, hn⟩ : ∃ name, g.rules[j]?.map Rule.name = some name :=
    Option.isSome_iff_exists.mp (by rw [← getElem?_names]; simp [hj])
  rw [getElem?_names, hn] at h
  exact absurd (g.name_injective h hn) (Nat.ne_of_lt hij)

theorem eq_of_name_eq {r s : Rule} (hr : r ∈ g.rules.toList) (hs : s ∈ g.rules.toList)
    (h : r.name = s.name) : r = s :=
  List.inj_on_of_nodup_map g.nodup_names hr hs h

theorem isSome_position_iff (name : Text) : g.positions[name]?.isSome ↔ name ∈ g.names := by
  rw [Option.isSome_iff_exists, List.mem_iff_getElem?]
  simp only [g.position_iff, getElem?_names]

theorem alternatives?_eq_some_iff {name : Text} {alternatives : List Alternative} :
    g.alternatives? name = some alternatives ↔ { name, alternatives } ∈ g.rules.toList := by
  unfold alternatives?
  rw [Option.bind_eq_some_iff, List.mem_iff_getElem?]
  constructor
  · rintro ⟨i, hi, ha⟩
    obtain ⟨r, hr, rfl⟩ := Option.map_eq_some_iff.mp ha
    have hn := (g.position_iff name i).mp hi
    rw [hr, Option.map_some, Option.some.injEq] at hn
    exact ⟨i, by rw [Array.getElem?_toList, hr, ← hn]⟩
  · rintro ⟨i, hi⟩
    rw [Array.getElem?_toList] at hi
    exact ⟨i, (g.position_iff name i).mpr (by rw [hi]; rfl), by rw [hi]; rfl⟩

theorem alternatives?_eq_none_iff {name : Text} :
    g.alternatives? name = none ↔ name ∉ g.names := by
  rw [Option.eq_none_iff_forall_ne_some]
  simp only [ne_eq, alternatives?_eq_some_iff]
  unfold names
  rw [List.mem_map, not_exists]
  constructor
  · rintro h r ⟨hr, rfl⟩
    exact h r.alternatives hr
  · rintro h alternatives hr
    exact h _ ⟨hr, rfl⟩

/-- A declared name is answered with its position, and a new one with the number of rules. -/
theorem declare_fst (name : Text) : (g.declare name).1 = g.names.idxOf name := by
  unfold declare
  split
  · rename_i i h
    rw [g.position_iff, ← getElem?_names] at h
    obtain ⟨hi, rfl⟩ := List.getElem?_eq_some_iff.mp h
    rw [g.nodup_names.idxOf_getElem i hi]
  · rename_i h
    have new : name ∉ g.names := fun hn => by
      simpa [h] using (g.isSome_position_iff name).mpr hn
    rw [List.idxOf_of_notMem new]
    simp [names]

/-! ### Declaring and changing -/

def declared (name : Text) : List Rule :=
  g.rules.toList ++ (newNames g.names [name]).map Rule.bare

theorem declared_old {name : Text} (h : name ∈ g.names) : g.declared name = g.rules.toList := by
  unfold declared
  rw [newNames_old h]
  simp [newNames]

theorem declared_new {name : Text} (h : name ∉ g.names) :
    g.declared name = g.rules.toList ++ [Rule.bare name] := by
  unfold declared
  rw [newNames_new h]
  simp [newNames]

theorem mem_declared_of_ne {name : Text} {r : Rule} (h : r.name ≠ name) :
    r ∈ g.declared name ↔ r ∈ g.rules.toList := by
  unfold declared
  rw [List.mem_append, or_iff_left]
  rintro hr
  obtain ⟨n, hn, rfl⟩ := List.mem_map.mp hr
  unfold newNames at hn
  rw [List.mem_eraseDups, List.mem_filter, List.mem_singleton] at hn
  exact h hn.1

theorem rules_declare (name : Text) : (g.declare name).2.rules.toList = g.declared name := by
  unfold declare
  split
  · rename_i i h
    rw [g.declared_old ((g.isSome_position_iff name).mp (by simp [h]))]
  · rename_i h
    rw [g.declared_new fun hn => by simpa [h] using (g.isSome_position_iff name).mpr hn]
    simp [addRule, Rule.bare]

theorem name_declare (name : Text) :
    ((g.declare name).2.rules[(g.declare name).1]?).map Rule.name = some name := by
  unfold declare
  split
  · rename_i i h
    exact (g.position_iff name i).mp h
  · simp [addRule]

theorem modify_eq_map {i : Nat} {r : Rule} (hr : g.rules[i]? = some r) (f : Rule → Rule) :
    g.rules.toList.modify i f = g.rules.toList.map fun s => if s.name = r.name then f s else s := by
  apply List.ext_getElem?
  intro j
  rw [List.getElem?_modify, List.getElem?_map, Array.getElem?_toList]
  cases hs : g.rules[j]? with
  | none => rfl
  | some s =>
      have same : i = j ↔ s.name = r.name := by
        constructor
        · rintro rfl
          rw [hr] at hs
          rw [Option.some.inj hs]
        · intro h
          exact g.name_injective (by rw [hr]; rfl) (by rw [hs, Option.map_some, h])
      simp [same]

/-- `alter` changes the alternatives of its rule and nothing else. -/
theorem rules_alter {α : Type} (name : Text)
    (f : List Alternative → α × List Alternative) :
    (g.alter name f).2.rules.toList = (g.declared name).map fun r =>
      if r.name = name then { r with alternatives := (f r.alternatives).2 } else r := by
  obtain ⟨r, hr, hn⟩ := Option.map_eq_some_iff.mp (g.name_declare name)
  have mem : r ∈ (g.declare name).2.rules.toList := by
    rw [Array.mem_toList_iff]
    exact Array.mem_of_getElem? hr
  simp only [alter, modify, Array.toList_modify]
  rw [(g.declare name).2.modify_eq_map hr, g.rules_declare]
  apply List.map_congr_left
  intro s hs
  rw [← rules_declare] at hs
  by_cases h : s.name = r.name
  · have hsr := (g.declare name).2.eq_of_name_eq hs mem h
    simp [hr, hsr, hn]
  · rw [if_neg h, if_neg (hn ▸ h)]

theorem alternatives?_declare {name other : Text} (h : other ≠ name) :
    (g.declare name).2.alternatives? other = g.alternatives? other := by
  apply Option.ext
  intro alternatives
  rw [alternatives?_eq_some_iff, alternatives?_eq_some_iff, rules_declare]
  exact g.mem_declared_of_ne h

theorem alternatives?_alter {α : Type} {name other : Text} (h : other ≠ name)
    (f : List Alternative → α × List Alternative) :
    (g.alter name f).2.alternatives? other = g.alternatives? other := by
  apply Option.ext
  intro alternatives
  rw [alternatives?_eq_some_iff, alternatives?_eq_some_iff, rules_alter,
    ← g.mem_declared_of_ne h, List.mem_map]
  constructor
  · rintro ⟨r, hr, hs⟩
    split at hs
    · rename_i hn
      exact absurd (hn ▸ congrArg Rule.name hs).symm h
    · exact hs ▸ hr
  · intro hr
    exact ⟨_, hr, if_neg h⟩

theorem alternatives_declare (name : Text) :
    (((g.declare name).2.rules[(g.declare name).1]?).map Rule.alternatives).getD [] =
      (g.alternatives? name).getD [] := by
  unfold declare
  split
  · rename_i i h
    simp [alternatives?, h]
  · rename_i h
    simp [alternatives?, h, addRule]

/-- What `alter` answers is made of the alternatives that the rule has, or of none. -/
theorem alter_fst {α : Type} (name : Text) (f : List Alternative → α × List Alternative) :
    (g.alter name f).1 = (f ((g.alternatives? name).getD [])).1 := by
  rw [← alternatives_declare]
  rfl

theorem rules_extend (l : Rule) :
    (g.extend l.name l.alternatives).rules.toList =
      (g.declared l.name).map (Rule.extended [l]) := by
  unfold extend
  rw [rules_alter]
  apply List.map_congr_left
  intro r _
  by_cases h : r.name = l.name
  · simp [Rule.extended, h]
  · rw [if_neg h, Rule.extended_of_ne (Ne.symm h)]

theorem names_extend (l : Rule) :
    (g.extend l.name l.alternatives).names = g.names ++ newNames g.names [l.name] := by
  unfold names
  rw [rules_extend, List.map_map]
  simp [declared, Function.comp_def, Rule.extended, Rule.bare, names]

/-- A grammar extended by the alternatives of lines, one after another. -/
def extendAll (lines : List Rule) : Grammar :=
  lines.foldl (fun g l => g.extend l.name l.alternatives) g

/-- **Extending adds at the end only.**  The old rules stay where they are, the new names follow in
the order of their first appearance, and each rule gains the alternatives of the lines of its name,
in order. -/
theorem rules_extendAll (lines : List Rule) :
    (g.extendAll lines).rules.toList =
      (g.rules.toList ++
        (newNames g.names (lines.map Rule.name)).map Rule.bare).map (Rule.extended lines) := by
  induction lines generalizing g with
  | nil =>
      have h : Rule.extended [] = id := funext Rule.extended_nil
      simp [extendAll, newNames, h]
  | cons l lines ih =>
      have step : g.extendAll (l :: lines) =
        (g.extend l.name l.alternatives).extendAll lines := rfl
      -- A name that is still new after the first line is not its label.
      have fresh : ∀ n ∈ newNames (g.names ++ newNames g.names [l.name]) (lines.map Rule.name),
          (Rule.bare n).extended [l] = Rule.bare n := by
        intro n hn
        apply Rule.extended_of_ne
        rintro rfl
        exact not_mem_of_mem_newNames hn (mem_append_newNames_singleton g.names l.name)
      have both : Rule.extended (l :: lines) = Rule.extended lines ∘ Rule.extended [l] :=
        funext (Rule.extended_cons l lines)
      rw [step, ih, names_extend, rules_extend, List.map_cons,
        newNames_cons g.names l.name (lines.map Rule.name), both]
      simp only [declared, List.map_append, List.map_map, List.append_assoc]
      congr 2
      apply List.map_congr_left
      intro n hn
      simp only [Function.comp_apply, fresh n hn]

/-- The rules where each rule has been given further alternatives, and rules for the labels that
have none have been added at the end. -/
def rulesWith (labels : List Text) (added : Text → List Alternative) : List Rule :=
  (g.names ++ newNames g.names labels).map fun name =>
    { name, alternatives := (g.alternatives? name).getD [] ++ added name }

/-- Every rule of an extended grammar is told by its name. -/
theorem rules_extendAll_eq_rulesWith (lines : List Rule) :
    (g.extendAll lines).rules.toList =
      g.rulesWith (lines.map Rule.name) fun name =>
        (lines.filter fun l => l.name = name).flatMap Rule.alternatives := by
  rw [rules_extendAll]
  unfold rulesWith
  rw [List.map_append, List.map_append]
  congr 1
  · unfold names
    rw [List.map_map]
    apply List.map_congr_left
    intro r hr
    simp [Rule.extended, g.alternatives?_eq_some_iff.mpr hr]
  · rw [List.map_map]
    apply List.map_congr_left
    intro n hn
    rw [g.alternatives?_eq_none_iff.mpr (not_mem_of_mem_newNames hn)]
    rfl

/-- From nothing on, there is a rule for each name, in the order of their first appearance. -/
theorem rules_extendAll_empty (lines : List Rule) :
    (empty.extendAll lines).rules.toList =
      (newNames [] (lines.map Rule.name)).map fun name =>
        { name, alternatives := (lines.filter fun l => l.name = name).flatMap Rule.alternatives } :=
  empty.rules_extendAll_eq_rulesWith lines

theorem extendAll_append (as bs : List Rule) :
    g.extendAll (as ++ bs) = (g.extendAll as).extendAll bs := List.foldl_append

end Grammar
end LineGrammar
