import LineGrammar.Files.Program
import LineGrammar.Proofs.Document.Members
import LineGrammar.Proofs.Json.RoundTrip

/-! # Grammars from their documents

A document is read back to the value that it was made from, whatever white space it is indented with
(`read_document`).  The rules of the grammar can be taken from that value, all but a rule that the
start rule has replaced; so two grammars without such a rule have the same document only if they
have the same rules (`document_recovery`). -/

namespace LineGrammar

theorem Text.decode?_encode (t : Text) : decode? (encode t) = some t := by
  have valid : (encode t).IsValidUTF8 := (String.ofList t).isValidUTF8
  have whole : String.fromUTF8 (encode t) valid = String.ofList t := rfl
  unfold decode? String.fromUTF8?
  rw [dif_pos valid, whole, Option.map_some, String.toList_ofList]

theorem Alternative.wellFormed_toJson (a : Alternative) : a.toJson.WellFormed := by
  apply Json.WellFormed.array
  intro v hv
  obtain ⟨s, -, rfl⟩ := List.mem_map.mp hv
  exact .string s.render

theorem Rule.wellFormed_toMember (r : Rule) : r.toMember.2.WellFormed := by
  apply Json.WellFormed.array
  intro v hv
  obtain ⟨a, -, rfl⟩ := List.mem_map.mp hv
  exact a.wellFormed_toJson

namespace Grammar

variable (g : Grammar) (o : DocumentOptions)

theorem wellFormed_toJson : (g.toJson o).WellFormed := by
  apply Json.WellFormed.object (g.nodup_names_members o)
  intro m hm
  rw [members_eq] at hm
  obtain ⟨r, -, rfl⟩ := List.mem_map.mp hm
  exact r.wellFormed_toMember

variable {o}

theorem read_document (hi : ∀ c ∈ o.indent, Json.isBlank c = true) :
    Json.read (g.document o) = some (g.toJson o) :=
  Json.read_pretty hi (g.wellFormed_toJson o) 0

/-! ### Recovery -/

theorem rules_of_toJson {g h : Grammar} (hg : startName ∉ g.names) (hh : startName ∉ h.names)
    (he : g.toJson o = h.toJson o) : g.rules = h.rules := by
  have members : g.members o = h.members o := Json.object.inj he
  have rules : g.documentRules o = h.documentRules o := by
    rw [← filterMap_ofMember?_members, members, filterMap_ofMember?_members]
  rw [documentRules_of_not_mem g o hg, documentRules_of_not_mem h o hh] at rules
  exact Array.toList_inj.mp (List.append_cancel_right rules)

/-- **Documents can be read back.**  Indented with white space, the document of every grammar is a
text in UTF-8 and a JSON text whose value is that of the grammar, with its members in their order;
and grammars without a rule of the start rule's name have the same document only if they have the
same rules. -/
theorem document_recovery (hi : ∀ c ∈ o.indent, Json.isBlank c = true) :
    (∀ g : Grammar, Text.decode? (Text.encode (g.document o)) = some (g.document o) ∧
      Json.read (g.document o) = some (g.toJson o)) ∧
      ∀ g h : Grammar, startName ∉ g.names → startName ∉ h.names →
        g.document o = h.document o → g.rules = h.rules := by
  refine ⟨fun g => ⟨Text.decode?_encode _, g.read_document hi⟩, fun g h hg hh he => ?_⟩
  have value : some (g.toJson o) = some (h.toJson o) := by
    rw [← g.read_document hi, he, h.read_document hi]
  exact rules_of_toJson hg hh (Option.some.inj value)

/-- A rule that is extended twice, and the same rule given at once. -/
theorem document_recovery_extended :
    let g := ((Grammar.empty.extend ['a'] [[.terminal ['"']]]).extend ['b'] [[]]).extend ['a']
      [[.nonterminal ['b'], .terminal ['\n']]]
    let h := (Grammar.empty.extend ['a'] [[.terminal ['"']],
      [.nonterminal ['b'], .terminal ['\n']]]).extend ['b'] [[]]
    let o : DocumentOptions := { indent := ['\t', ' '] }
    Json.read (g.document o) = some (g.toJson o) ∧ g.document o = h.document o ∧
      g.rules = h.rules := by
  intro g h o
  have blank : o.indent.all Json.isBlank = true := by decide
  have same : g.document o = h.document o := by decide
  obtain ⟨values, rules⟩ := document_recovery (List.all_eq_true.mp blank)
  exact ⟨(values g).2, same, rules g h (by decide) (by decide) same⟩

end Grammar
end LineGrammar
