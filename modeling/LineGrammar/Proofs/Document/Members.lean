import LineGrammar.Document
import LineGrammar.Proofs.Grammar.Rules
import LineGrammar.Proofs.Json.Members
import LineGrammar.Proofs.Symbol.Decoding

/-! # The members of a document

The object of a document is built by giving it one member after another, and a member replaces an
earlier one of its name.  Nothing is lost all the same: the rules of a grammar have distinct names,
so only the start rule can meet a rule of its name, and takes its place.  The members are those of
the rules that `documentRules` lists (`members_eq`), and every rule can be read back from its member
(`members_complete`). -/

namespace LineGrammar

def Alternative.ofJson? : Json → Option Alternative
  | .array items => items.mapM fun
    | .string r => some (Symbol.decode r)
    | _ => none
  | _ => none

/-- The rule that a member stands for. -/
def Rule.ofMember? : Text × Json → Option Rule
  | (key, .array items) =>
    match Symbol.decode key with
    | .nonterminal name => (items.mapM Alternative.ofJson?).map fun alternatives =>
        { name, alternatives }
    | .terminal _ => none
  | _ => none

theorem Alternative.ofJson?_toJson (a : Alternative) : ofJson? a.toJson = some a := by
  simp only [toJson, ofJson?, List.mapM_map, Function.comp_def, Symbol.decode_render]
  induction a with
  | nil => rfl
  | cons s a ih => simp [ih]

theorem Rule.ofMember?_toMember (r : Rule) : ofMember? r.toMember = some r := by
  have items : (r.alternatives.map Alternative.toJson).mapM Alternative.ofJson? =
      some r.alternatives := by
    induction r.alternatives with
    | nil => rfl
    | cons a as ih => simp [Alternative.ofJson?_toJson, ih]
  simp only [toMember, ofMember?, Symbol.decode_bracketed, items, Option.map_some]

/-! ### The rules of a document -/

def DocumentOptions.startRule (o : DocumentOptions) : Rule :=
  { name := startName, alternatives := [[.nonterminal o.entrypoint]] }

theorem DocumentOptions.toMember_startRule (o : DocumentOptions) :
    o.startRule.toMember = o.startMember := rfl

namespace Grammar

variable (g : Grammar) (o : DocumentOptions)

/-- The rules of a grammar with the start rule of a document: in the place of the rule of its name,
or at the end if there is none. -/
def documentRules : List Rule :=
  (g.rules.toList.map fun r => if r.name = startName then o.startRule else r) ++
    if g.positions[startName]?.isSome then [] else [o.startRule]

theorem documentRules_eq :
    g.documentRules o =
      (g.rules.toList.map fun r => if r.name = startName then o.startRule else r) ++
        if startName ∈ g.names then [] else [o.startRule] := by
  unfold documentRules
  simp only [isSome_position_iff]

theorem names_toMember (rules : List Rule) :
    Json.names (rules.map Rule.toMember) = (rules.map Rule.name).map Symbol.bracketed := by
  simp [Json.names, Function.comp_def, Rule.toMember]

theorem mem_bracketed_names (name : Text) :
    Symbol.bracketed name ∈ g.names.map Symbol.bracketed ↔ name ∈ g.names := by
  constructor
  · intro h
    obtain ⟨n, hn, he⟩ := List.mem_map.mp h
    rwa [← Symbol.bracketed_injective he]
  · exact List.mem_map_of_mem

theorem nodup_bracketed {l : List Text} (h : l.Nodup) : (l.map Symbol.bracketed).Nodup :=
  h.map fun _ _ => Symbol.bracketed_injective

theorem documentRules_of_not_mem (h : startName ∉ g.names) :
    g.documentRules o = g.rules.toList ++ [o.startRule] := by
  have same : ∀ r ∈ g.rules.toList, (if r.name = startName then o.startRule else r) = r := by
    intro r hr
    have hn : r.name ≠ startName := fun he => h (he ▸ List.mem_map_of_mem hr)
    rw [if_neg hn]
  rw [documentRules_eq, if_neg h, List.map_congr_left same, List.map_id']

theorem documentRules_of_mem (h : startName ∈ g.names) :
    g.documentRules o =
      g.rules.toList.map fun r => if r.name = startName then o.startRule else r := by
  rw [documentRules_eq, if_pos h, List.append_nil]

/-- The object of a document has a member for each of its rules, in their order. -/
theorem members_eq : g.members o = (g.documentRules o).map Rule.toMember := by
  have distinct : (Json.names (g.rules.toList.map Rule.toMember)).Nodup := by
    rw [names_toMember]
    exact nodup_bracketed g.nodup_names
  have known : o.startMember.1 ∈ Json.names (g.rules.toList.map Rule.toMember) ↔
      startName ∈ g.names := by
    rw [names_toMember]
    exact g.mem_bracketed_names startName
  unfold members
  rw [Json.setMembers_concat, Json.setMembers_of_nodup distinct]
  by_cases h : startName ∈ g.names
  · rw [Json.setMember_of_mem _ distinct (known.mpr h), documentRules_of_mem g o h, List.map_map,
      List.map_map]
    apply List.map_congr_left
    intro r _
    by_cases hn : r.name = startName
    · have hb : r.toMember.1 = o.startMember.1 := congrArg Symbol.bracketed hn
      simp [hn, hb, o.toMember_startRule]
    · have hb : r.toMember.1 ≠ o.startMember.1 := fun he => hn (Symbol.bracketed_injective he)
      simp [hn, hb]
  · rw [Json.setMember_of_not_mem _ fun hm => h (known.mp hm), documentRules_of_not_mem g o h,
      List.map_append]
    rfl

theorem name_documentRules :
    (g.documentRules o).map Rule.name =
      g.names ++ if startName ∈ g.names then [] else [startName] := by
  have same : ∀ r : Rule, (if r.name = startName then o.startRule else r).name = r.name := by
    intro r
    split
    · rename_i h
      exact h.symm
    · rfl
  rw [documentRules_eq, List.map_append, List.map_map]
  simp only [Function.comp_def, same]
  split <;> rfl

theorem nodup_name_documentRules : ((g.documentRules o).map Rule.name).Nodup := by
  rw [name_documentRules]
  split
  · simpa using g.nodup_names
  · rename_i h
    exact List.nodup_append.mpr ⟨g.nodup_names, List.nodup_singleton _, by
      intro n hn m hm
      rw [List.mem_singleton.mp hm]
      exact fun he => h (he ▸ hn)⟩

theorem startRule_mem_documentRules : o.startRule ∈ g.documentRules o := by
  by_cases h : startName ∈ g.names
  · rw [documentRules_of_mem g o h]
    obtain ⟨r, hr, hn⟩ := List.mem_map.mp h
    exact List.mem_map.mpr ⟨r, hr, if_pos hn⟩
  · rw [documentRules_of_not_mem g o h]
    simp

theorem getElem?_documentRules {i : Nat} {r : Rule} (h : g.rules[i]? = some r)
    (hn : r.name ≠ startName) : (g.documentRules o)[i]? = some r := by
  unfold documentRules
  rw [List.getElem?_append_left (by simpa using (Array.getElem?_eq_some_iff.mp h).1),
    List.getElem?_map, Array.getElem?_toList, h, Option.map_some, if_neg hn]

theorem filter_documentRules :
    (g.documentRules o).filter (fun r => r.name ≠ startName) =
      g.rules.toList.filter fun r => r.name ≠ startName := by
  have rest : (if startName ∈ g.names then [] else [o.startRule]).filter
      (fun r => r.name ≠ startName) = [] := by
    split <;> simp [DocumentOptions.startRule]
  rw [documentRules_eq, List.filter_append, rest, List.append_nil]
  induction g.rules.toList with
  | nil => rfl
  | cons r rs ih =>
      rw [List.map_cons]
      by_cases h : r.name = startName
      · simpa [h, DocumentOptions.startRule] using ih
      · simpa [h] using ih

theorem filterMap_ofMember?_members :
    (g.members o).filterMap Rule.ofMember? = g.documentRules o := by
  rw [members_eq, List.filterMap_map]
  simp [Rule.ofMember?_toMember]

/-! ### Names and values -/

theorem names_members :
    Json.names (g.members o) =
      g.names.map Symbol.bracketed ++
        if startName ∈ g.names then [] else [Symbol.bracketed startName] := by
  rw [members_eq, names_toMember, name_documentRules, List.map_append]
  split <;> rfl

theorem nodup_names_members : (Json.names (g.members o)).Nodup := by
  rw [members_eq, names_toMember]
  exact nodup_bracketed (g.nodup_name_documentRules o)

theorem lookup_members {r : Rule} (h : r ∈ g.documentRules o) :
    (g.members o).lookup (Symbol.bracketed r.name) =
      some (.array (r.alternatives.map Alternative.toJson)) := by
  apply Json.lookup_of_mem (g.nodup_names_members o)
  rw [members_eq]
  exact List.mem_map.mpr ⟨r, h, rfl⟩

theorem length_members :
    (g.members o).length = if startName ∈ g.names then g.size else g.size + 1 := by
  rw [members_eq, List.length_map]
  by_cases h : startName ∈ g.names
  · rw [documentRules_of_mem g o h, if_pos h, List.length_map, Array.length_toList, size]
  · rw [documentRules_of_not_mem g o h, if_neg h, List.length_append, Array.length_toList,
      List.length_singleton, size]

/-- **The object of a document holds every rule and exactly one start rule.**  Its names are
distinct: those of the rules in their order, and that of the start rule at the end if no rule has
it.  The start rule leads to the entry point, whatever a rule of its name says; the value of every
other name is the list of the rule's alternatives, with their symbols rendered; and every rule other
than the start rule is read back at its own position. -/
theorem members_complete :
    (Json.names (g.members o)).Nodup ∧
      Json.names (g.members o) =
        g.names.map Symbol.bracketed ++
          (if startName ∈ g.names then [] else [Symbol.bracketed startName]) ∧
      (g.members o).length = (if startName ∈ g.names then g.size else g.size + 1) ∧
      (g.members o).lookup (Symbol.bracketed startName) =
        some (.array [.array [.string (Symbol.bracketed o.entrypoint)]]) ∧
      (∀ r ∈ g.rules.toList, r.name ≠ startName →
        (g.members o).lookup (Symbol.bracketed r.name) =
          some (.array (r.alternatives.map fun a => .array (a.map fun s => .string s.render)))) ∧
      (∀ (i : Nat) (r : Rule), g.rules[i]? = some r → r.name ≠ startName →
        (g.members o)[i]?.bind Rule.ofMember? = some r) ∧
      ((g.members o).filterMap Rule.ofMember?).filter (fun r => r.name ≠ startName) =
        g.rules.toList.filter fun r => r.name ≠ startName := by
  refine ⟨g.nodup_names_members o, g.names_members o, g.length_members o,
    g.lookup_members o (g.startRule_mem_documentRules o), fun r hr hn => ?_,
    fun i r hr hn => ?_, ?_⟩
  · obtain ⟨i, hi⟩ := List.mem_iff_getElem?.mp hr
    rw [Array.getElem?_toList] at hi
    exact g.lookup_members o (List.mem_of_getElem? (g.getElem?_documentRules o hi hn))
  · rw [members_eq, List.getElem?_map, g.getElem?_documentRules o hr hn]
    exact Rule.ofMember?_toMember r
  · rw [filterMap_ofMember?_members, filter_documentRules]

/-- A grammar that has a rule of the start rule's name between two others. -/
theorem members_complete_start_between :
    let g := ((Grammar.empty.extend ['a'] [[.terminal ['<']], []]).extend startName
      [[.nonterminal ['a']]]).extend ['b'] []
    Json.names (g.members {}) = ["<a>".toList, "<start>".toList, "<b>".toList] ∧
      (g.members {}).lookup "<start>".toList =
        some (.array [.array [.string "<module>".toList]]) ∧
      (g.members {}).lookup "<a>".toList =
        some (.array [.array [.string "'<'".toList], .array []]) ∧
      (g.members {})[2]?.bind Rule.ofMember? = some { name := ['b'] } := by
  intro g
  obtain ⟨-, names, -, start, values, positions, -⟩ := g.members_complete {}
  exact ⟨names.trans (by decide), start,
    values { name := ['a'], alternatives := [[.terminal ['<']], []] } (by decide) (by decide),
    positions 2 { name := ['b'] } (by decide) (by decide)⟩

end Grammar
end LineGrammar
