import LineGrammar.Proofs.Grammar.RuleList

/-! # Grammars and their copies

Several grammars are at work side by side, counted from 0.  A command performs an operation on one
of them or adds a copy of one at the end.  From one empty grammar on, all commands are answered as
they are on plain lists of rules, of which each copy has its own (`commands_on_lists`).

The same commands, given to lists of operations instead of grammars, collect the past of each
grammar, that of the grammar it is a copy of included (`pastsAfter`).  The past tells which names are
declared and in which order. -/

namespace LineGrammar.Grammar

/-- A command to values that are counted from 0. -/
inductive Command where
  | perform (k : Nat) (operation : Operation)
  /-- Adds a copy of the value with the number `k` at the end. -/
  | copy (k : Nat)

namespace Command

variable {α α' β β' : Type}

/-- The answer to a command, where `f` performs an operation on one value. -/
def answer? (f : α → Operation → β × α) (values : List α) : Command → Option β
  | perform k operation => values[k]?.map fun a => (f a operation).1
  | copy _ => none

def apply (f : α → Operation → β × α) (values : List α) : Command → List α
  | perform k operation => values.modify k fun a => (f a operation).2
  | copy k => values ++ values[k]?.toList

def answers (f : α → Operation → β × α) : List α → List Command → List (Option β)
  | _, [] => []
  | values, c :: commands => c.answer? f values :: answers f (c.apply f values) commands

def applyAll (f : α → Operation → β × α) : List α → List Command → List α :=
  List.foldl (apply f)

section View

variable {f : α → Operation → β × α} {f' : α' → Operation → β' × α'} {view : α → α'}

theorem apply_map (h : ∀ a operation, (f' (view a) operation).2 = view (f a operation).2)
    (values : List α) (c : Command) :
    c.apply f' (values.map view) = (c.apply f values).map view := by
  cases c with
  | perform k operation =>
      apply List.ext_getElem?
      intro j
      simp only [apply, List.getElem?_modify, List.getElem?_map]
      cases values[j]? with
      | none => rfl
      | some a =>
          by_cases hk : k = j <;> simp [hk, h]
  | copy k =>
      simp only [apply, List.getElem?_map, List.map_append]
      cases values[k]? <;> rfl

/-- Values are worked on in the same way however they are seen. -/
theorem applyAll_map (h : ∀ a operation, (f' (view a) operation).2 = view (f a operation).2)
    (values : List α) (commands : List Command) :
    applyAll f' (values.map view) commands = (applyAll f values commands).map view := by
  unfold applyAll
  induction commands generalizing values with
  | nil => rfl
  | cons c commands ih =>
      rw [List.foldl_cons, List.foldl_cons, apply_map h, ih]

end View

theorem answer?_map {f : α → Operation → β × α} {f' : α' → Operation → β × α'}
    {view : α → α'} (h : ∀ a operation, f' (view a) operation = (f a operation).map id view)
    (values : List α) (c : Command) : c.answer? f' (values.map view) = c.answer? f values := by
  cases c with
  | perform k operation =>
      simp only [answer?, List.getElem?_map, Option.map_map, Function.comp_def, h, Prod.map_fst,
        id_eq]
  | copy k => rfl

/-- Values answer in the same way however they are seen. -/
theorem answers_map {f : α → Operation → β × α} {f' : α' → Operation → β × α'}
    {view : α → α'} (h : ∀ a operation, f' (view a) operation = (f a operation).map id view)
    (values : List α) (commands : List Command) :
    answers f' (values.map view) commands = answers f values commands := by
  induction commands generalizing values with
  | nil => rfl
  | cons c commands ih =>
      have next : c.apply f' (values.map view) = (c.apply f values).map view :=
        apply_map (fun a operation => by rw [h]; rfl) values c
      rw [answers, answers, answer?_map h, next, ih]

/-- A value is led on by operations only, and never disappears. -/
theorem exists_applyAll {f : α → Operation → β × α} {R : α → α → Prop}
    (refl : ∀ a, R a a) (trans : ∀ {a b c}, R a b → R b c → R a c)
    (step : ∀ a operation, R a (f a operation).2) {values : List α} {k : Nat} {a : α}
    (h : values[k]? = some a) (commands : List Command) :
    ∃ b, (applyAll f values commands)[k]? = some b ∧ R a b := by
  unfold applyAll
  induction commands generalizing values a with
  | nil => exact ⟨a, h, refl a⟩
  | cons c commands ih =>
      obtain ⟨b, hb, hab⟩ : ∃ b, (c.apply f values)[k]? = some b ∧ R a b := by
        cases c with
        | perform j operation =>
            simp only [apply, List.getElem?_modify, h]
            by_cases hj : j = k
            · exact ⟨_, by simp [hj], step a operation⟩
            · exact ⟨a, by simp [hj], refl a⟩
        | copy j =>
            obtain ⟨hk, -⟩ := List.getElem?_eq_some_iff.mp h
            exact ⟨a, by rw [apply, List.getElem?_append_left hk, h], refl a⟩
      obtain ⟨d, hd, hbd⟩ := ih hb
      exact ⟨d, hd, trans hab hbd⟩

end Command

open Command (answers applyAll)

/-- The names that an operation declares. -/
def Operation.names : Operation → List Text
  | declare name => [name]
  | alter name _ => [name]
  | _ => []

/-- The past with an operation added. -/
def record (past : List Operation) (operation : Operation) : Unit × List Operation :=
  ((), past ++ [operation])

/-- The pasts of all grammars after commands, where the first one was empty. -/
def pastsAfter (commands : List Command) : List (List Operation) := applyAll record [[]] commands

def grammarsAfter (commands : List Command) : List Grammar := applyAll perform [empty] commands

def ruleListsAfter (commands : List Command) : List (List Rule) :=
  applyAll RuleList.perform [[]] commands

/-- The grammar that operations lead to. -/
def ofPast (past : List Operation) : Grammar :=
  past.foldl (fun g operation => (g.perform operation).2) empty

/-- Each grammar is what its past leads to. -/
theorem grammarsAfter_eq (commands : List Command) :
    grammarsAfter commands = (pastsAfter commands).map ofPast := by
  have step : ∀ past operation,
      ((ofPast past).perform operation).2 = ofPast (record past operation).2 := by
    intro past operation
    simp [record, ofPast]
  exact Command.applyAll_map step [[]] commands

/-- An operation adds the name that it declares at the end, if the name is new. -/
theorem names_perform (g : Grammar) (operation : Operation) :
    (g.perform operation).2.names = g.names ++ newNames g.names operation.names := by
  cases operation with
  | declare name =>
      simp only [perform, names, rules_declare, declared, List.map_append, Operation.names]
      simp [Rule.bare, Function.comp_def]
  | alter name change =>
      have kept : Rule.name ∘ (fun r : Rule => if r.name = name then
          { r with alternatives := change r.alternatives } else r) = Rule.name := by
        funext r
        by_cases h : r.name = name <;> simp [h]
      simp only [perform, names, rules_alter, declared, List.map_map, kept, Operation.names]
      simp [Rule.bare, Function.comp_def]
  | _ => simp [perform, Operation.names, newNames]

theorem names_foldl (g : Grammar) (past : List Operation) :
    (past.foldl (fun g operation => (g.perform operation).2) g).names =
      g.names ++ newNames g.names (past.flatMap Operation.names) := by
  induction past generalizing g with
  | nil => simp [newNames]
  | cons operation past ih =>
      rw [List.foldl_cons, ih, names_perform, List.flatMap_cons, newNames_append, List.append_assoc]

/-- The names of a grammar are those that were declared, in the order of their first declaration. -/
theorem names_ofPast (past : List Operation) :
    (ofPast past).names = newNames [] (past.flatMap Operation.names) :=
  names_foldl empty past

theorem mem_names_ofPast (past : List Operation) (name : Text) :
    name ∈ (ofPast past).names ↔ name ∈ past.flatMap Operation.names := by
  rw [names_ofPast, ← List.nil_append (newNames [] _), mem_append_newNames]
  simp only [List.not_mem_nil, false_or]

/-- An operation on one name leaves the alternatives of the others. -/
theorem alternatives?_perform (g : Grammar) {operation : Operation} {name : Text}
    (h : name ∉ operation.names) :
    (g.perform operation).2.alternatives? name = g.alternatives? name := by
  cases operation with
  | declare other => exact g.alternatives?_declare (List.ne_of_not_mem_cons h)
  | alter other change =>
      exact g.alternatives?_alter (List.ne_of_not_mem_cons h) fun now => (now, change now)
  | _ => rfl

/-- A rule keeps its position, whatever is done with its grammar and the others. -/
theorem exists_declare_fst_eq {commands : List Command} {k : Nat} {g : Grammar}
    (h : (grammarsAfter commands)[k]? = some g) (later : List Command) :
    ∃ g', (grammarsAfter (commands ++ later))[k]? = some g' ∧
      ∀ name ∈ g.names, (g'.declare name).1 = (g.declare name).1 := by
  have grown : ∀ (g : Grammar) operation, g.names <+: (g.perform operation).2.names :=
    fun g operation => ⟨_, (names_perform g operation).symm⟩
  obtain ⟨g', hg', before⟩ := Command.exists_applyAll (f := perform)
    (R := fun g g' => g.names <+: g'.names) (fun _ => List.prefix_refl _)
    (fun hab hbc => hab.trans hbc) grown h later
  refine ⟨g', ?_, fun name hn => ?_⟩
  · rw [← hg']
    exact congrArg (·[k]?) List.foldl_append
  · rw [declare_fst, declare_fst, before.idxOf_eq_of_mem hn]

/-! ### Positions -/

/-- The positions that a grammar keeps beside its rules fit the rules. -/
structure Indexed (g : Grammar) : Prop where
  nodup_names : g.names.Nodup
  /-- Exactly the names of the rules have a position, each its own. -/
  position_iff : ∀ (name : Text) (i : Nat), g.positions[name]? = some i ↔ g.names[i]? = some name
  position_lt : ∀ (name : Text) (i : Nat), g.positions[name]? = some i → i < g.rules.size
  declare_lt : ∀ name : Text, (g.declare name).1 < (g.declare name).2.rules.size

theorem indexed (g : Grammar) : g.Indexed where
  nodup_names := g.nodup_names
  position_iff name i := by rw [g.position_iff, getElem?_names]
  position_lt name i h := by
    obtain ⟨r, hr, -⟩ := Option.map_eq_some_iff.mp ((g.position_iff name i).mp h)
    exact (Array.getElem?_eq_some_iff.mp hr).1
  declare_lt name := by
    obtain ⟨r, hr, -⟩ := Option.map_eq_some_iff.mp (g.name_declare name)
    exact (Array.getElem?_eq_some_iff.mp hr).1

/-- **A grammar is a list of rules that is searched from the front.**  Commands to an empty grammar
and its copies are answered as by plain lists, and leave the rules that they leave there.  The
positions of every grammar fit its rules; its names are those that were declared in its past, and
each is declared at the position of its first declaration, for all time to come.  An operation on
one name leaves the order of the rules and the alternatives of the others. -/
theorem commands_on_lists (commands : List Command) :
    answers perform [empty] commands = answers RuleList.perform [[]] commands ∧
      (grammarsAfter commands).map (fun g => g.rules.toList) = ruleListsAfter commands ∧
      grammarsAfter commands = (pastsAfter commands).map ofPast ∧
      ∀ (k : Nat) (past : List Operation), (pastsAfter commands)[k]? = some past →
        let g := ofPast past
        g.Indexed ∧
          g.names = newNames [] (past.flatMap Operation.names) ∧
          (∀ name, (g.declare name).1 = g.names.idxOf name ∧
            (g.alternatives? name = none ↔ name ∉ past.flatMap Operation.names)) ∧
          (∀ operation, (g.perform operation).2.names =
              g.names ++ newNames g.names operation.names ∧
            ∀ name ∉ operation.names,
              (g.perform operation).2.alternatives? name = g.alternatives? name) ∧
          ∀ later, ∃ g', (grammarsAfter (commands ++ later))[k]? = some g' ∧
            ∀ name ∈ g.names, (g'.declare name).1 = (g.declare name).1 := by
  refine ⟨?_, ?_, grammarsAfter_eq commands, fun k past hp => ?_⟩
  · exact (Command.answers_map RuleList.perform_rules [empty] commands).symm
  · exact (Command.applyAll_map (fun g operation => by rw [RuleList.perform_rules]) [empty]
      commands).symm
  · intro g
    have here : (grammarsAfter commands)[k]? = some g := by
      rw [grammarsAfter_eq, List.getElem?_map, hp]
      rfl
    refine ⟨g.indexed, names_ofPast past, fun name => ⟨g.declare_fst name, ?_⟩,
      fun operation => ⟨g.names_perform operation, fun name hn => g.alternatives?_perform hn⟩,
      exists_declare_fst_eq here⟩
    rw [g.alternatives?_eq_none_iff, mem_names_ofPast]

/-- A copy goes its own way: its rule loses the alternative that the first grammar keeps, and a rule
is declared that the first grammar does not have. -/
theorem commands_on_lists_copied :
    let push : Operation := .alter ['a'] fun now => now ++ [[.terminal ['x']]]
    let pop : Operation := .alter ['a'] List.dropLast
    let commands : List Command :=
      [.perform 0 push, .perform 0 (.declare ['b']), .copy 0, .perform 1 pop,
        .perform 1 (.declare ['c']), .perform 1 (.declare ['b']), .perform 0 (.alternatives ['a']),
        .perform 1 (.alternatives ['a']), .perform 0 (.alternatives ['c']),
        .perform 1 .alternativeCount]
    let past : List Operation :=
      [push, .declare ['b'], pop, .declare ['c'], .declare ['b'], .alternatives ['a'],
        .alternativeCount]
    answers perform [empty] commands =
        [some (.alternatives (some [])), some (.position 1), none,
          some (.alternatives (some [[.terminal ['x']]])), some (.position 2), some (.position 1),
          some (.alternatives (some [[.terminal ['x']]])), some (.alternatives (some [])),
          some (.alternatives none), some (.count 0)] ∧
      (pastsAfter commands)[1]? = some past ∧
      (ofPast past).names = [['a'], ['b'], ['c']] ∧
      ((ofPast past).declare ['b']).1 = 1 ∧
      (ofPast past).alternatives? ['d'] = none := by
  intro push pop commands past
  obtain ⟨answered, -, -, told⟩ := commands_on_lists commands
  have copied : (pastsAfter commands)[1]? = some past := rfl
  obtain ⟨-, names, positions, -⟩ := told 1 past copied
  refine ⟨?_, copied, ?_, ?_, ?_⟩
  · rw [answered]
    decide
  · rw [names]
    decide
  · rw [(positions ['b']).1, names]
    decide
  · rw [(positions ['d']).2]
    decide

end LineGrammar.Grammar
