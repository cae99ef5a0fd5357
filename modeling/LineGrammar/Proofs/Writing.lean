import LineGrammar.Proofs.Gathering
import LineGrammar.Proofs.Modes
import LineGrammar.Proofs.RuleLine

/-! # Grammars written as text

A rule is written as its label, a separator and its symbols with single spaces between them: a
nonterminal by its bare name, a terminal between double quotes.  The label and the symbols must be
such that they can be told apart afterwards (`IsLabel`, `Symbol.IsWritable`); then the line is
compiled to just this label and these symbols, and the sampler is not asked (`compileLine_written`).
So a text of such lines, one for each rule, is read back exactly (`addSource_written`). -/

namespace LineGrammar

def Symbol.written : Symbol → Text
  | terminal content => '"' :: (content ++ ['"'])
  | nonterminal name => name

/-- What can be told from its token alone: any terminal, and a nonterminal whose name can stand as a
token. -/
def Symbol.IsLegible : Symbol → Prop
  | terminal _ => True
  | nonterminal name => IsReference name

/-- Where patterns are known, the token of the symbol is taken for one. -/
def Symbol.IsMarked : Symbol → Prop
  | terminal _ => False
  | nonterminal name => name.head? = some 'r'

instance : DecidablePred Symbol.IsMarked
  | .terminal _ => inferInstanceAs (Decidable False)
  | .nonterminal name => inferInstanceAs (Decidable (name.head? = some 'r'))

/-- A label with one alternative. -/
structure Production where
  label : Text
  symbols : Alternative
  deriving DecidableEq

namespace Production

variable (p : Production)

/-- The line of a production, without its newline. -/
def line : Text := p.label ++ separator ++ [' '].intercalate (p.symbols.map Symbol.written)

/-- The productions as a text, one to a line. -/
def written (ps : List Production) : Text := ps.flatMap fun p => p.line ++ ['\n']

/-- The production can be written so that it is read back in the mode. -/
structure IsWritable (mode : Mode) : Prop where
  isLabel : IsLabel p.label
  symbols_ne_nil : p.symbols ≠ []
  isWritable : ∀ s ∈ p.symbols, s.IsWritable
  unmarked : mode ≠ .plain → ∀ s ∈ p.symbols, ¬ s.IsMarked

instance (mode : Mode) : Decidable (p.IsWritable mode) :=
  decidable_of_iff (IsLabel p.label ∧ p.symbols ≠ [] ∧ (∀ s ∈ p.symbols, s.IsWritable) ∧
      (mode ≠ .plain → ∀ s ∈ p.symbols, ¬ s.IsMarked))
    ⟨fun ⟨h₁, h₂, h₃, h₄⟩ => ⟨h₁, h₂, h₃, h₄⟩, fun ⟨h₁, h₂, h₃, h₄⟩ => ⟨h₁, h₂, h₃, h₄⟩⟩

end Production

/-! ### Symbols -/

namespace Symbol

variable {s : Symbol}

theorem space_not_mem_written (h : s.IsWritable) : ' ' ∉ s.written := by
  cases s with
  | nonterminal name => exact h.space_not_mem
  | terminal content => simp [written, h.1]

theorem newline_not_mem_written (h : s.IsWritable) : '\n' ∉ s.written := by
  cases s with
  | nonterminal name => exact h.newline_not_mem
  | terminal content => simp [written, h.2]

theorem isLegible_of_isWritable (h : s.IsWritable) : s.IsLegible := by
  cases s with
  | terminal content => exact trivial
  | nonterminal name => exact h

theorem chomp_written (h : s.IsLegible) : Text.chomp s.written = s.written := by
  apply Text.dropEndWhile_eq_self
  intro c hc
  cases s with
  | terminal content =>
      rw [written, ← List.cons_append, List.getLast?_concat] at hc
      rw [← Option.some.inj hc]
      decide
  | nonterminal name =>
      have returned : c ≠ '\r' := fun hr => h.getLast?_ne (hr ▸ hc)
      have ended : c ≠ '\n' := fun hn => h.newline_not_mem (hn ▸ List.mem_of_getLast? hc)
      simp [Text.isLineEnd, returned, ended]

/-- The token of a symbol stands for the symbol. -/
theorem ofToken_written (h : s.IsLegible) : ofToken (Text.chomp s.written) = s := by
  rw [chomp_written h]
  cases s with
  | terminal content => rw [written, ofToken, if_pos rfl, Text.stripLast_concat]
  | nonterminal name =>
      obtain ⟨c, t, rfl⟩ := List.exists_cons_of_ne_nil h.ne_nil
      have hc : c ≠ '"' := fun hc => h.head?_ne (by rw [hc]; rfl)
      rw [written, ofToken, if_neg hc]

theorem part_written (h : s.IsLegible) {mode : Mode} (unmarked : mode ≠ .plain → ¬ s.IsMarked)
    (samples : Nat) : Part.ofToken mode samples s.written = pure (.symbol s) := by
  have silent : request? mode samples s.written = none := by
    rw [request?_eq_none_iff, or_iff_not_imp_left]
    intro hm
    cases s with
    | terminal content => simp [written]
    | nonterminal name => exact unmarked hm
  rw [ofToken_eq, silent, ofToken_written h]

theorem parts_written {a : Alternative} {mode : Mode} (h : ∀ s ∈ a, s.IsLegible)
    (unmarked : mode ≠ .plain → ∀ s ∈ a, ¬ s.IsMarked) (samples : Nat) :
    Part.ofTokens mode samples (a.map written) = pure (a.map .symbol) := by
  induction a with
  | nil => rfl
  | cons s a ih =>
      obtain ⟨first, rest⟩ := List.forall_mem_cons.mp h
      have others := ih rest fun hm => (List.forall_mem_cons.mp (unmarked hm)).2
      rw [List.map_cons, Part.ofTokens,
        part_written first (fun hm => (List.forall_mem_cons.mp (unmarked hm)).1), others]
      rfl

end Symbol

namespace Production

variable {p : Production} {settings : Settings}

theorem parse?_line (h : p.IsWritable settings.mode) :
    RuleLine.parse? p.line =
      some { label := p.label, tokens := p.symbols.map Symbol.written } := by
  have tokens : ([' '].intercalate (p.symbols.map Symbol.written)).splitOn ' ' =
      p.symbols.map Symbol.written := by
    apply List.splitOn_intercalate
    · intro t ht
      obtain ⟨s, hs, rfl⟩ := List.mem_map.mp ht
      exact Symbol.space_not_mem_written (h.isWritable s hs)
    · exact mt List.map_eq_nil_iff.mp h.symbols_ne_nil
  rw [RuleLine.parse?_eq_some_iff]
  refine ⟨p.label, _, rfl, h.isLabel.separator_not_infix, ?_, ?_⟩
  · rw [h.isLabel.trim_eq]
    exact h.isLabel.ne_nil
  · rw [h.isLabel.trim_eq, tokens]

/-- The line of a production is compiled to the production, and the sampler is not asked. -/
theorem compileLine_written (h : p.IsWritable settings.mode) (hs : settings.spacing = false)
    (n : Nat) :
    compileLine settings n (p.line ++ ['\n']) = pure (p.label, [p.symbols]) := by
  have ended : ∀ c ∈ ['\n'], Text.isLineEnd c = true := by simp [Text.isLineEnd]
  have legible : ∀ s ∈ p.symbols, s.IsLegible := fun s hs =>
    Symbol.isLegible_of_isWritable (h.isWritable s hs)
  rw [compileLine_append settings n p.line ended, compileLine_of_some settings n (parse?_line h),
    Symbol.parts_written legible h.unmarked, map_pure, hs, ofParts_map_symbol]
  rfl

theorem newline_not_mem_line (h : p.IsWritable settings.mode) : '\n' ∉ p.line := by
  intro hn
  rcases List.mem_append.mp hn with hn | hn
  · rcases List.mem_append.mp hn with hn | hn
    · exact h.isLabel.newline_not_mem hn
    · exact absurd hn (by decide)
  · rcases mem_of_mem_intercalate hn with hn | ⟨t, ht, hn⟩
    · exact absurd hn (by decide)
    · obtain ⟨s, hs, rfl⟩ := List.mem_map.mp ht
      exact Symbol.newline_not_mem_written (h.isWritable s hs) hn

/-- The production as a contribution to the rule of its label. -/
def rule (p : Production) : Rule := { name := p.label, alternatives := [p.symbols] }

theorem gatherLines_written {ps : List Production} (h : ∀ p ∈ ps, p.IsWritable settings.mode)
    (hs : settings.spacing = false) (n : Nat) :
    gatherLines settings n (ps.map fun p => p.line ++ ['\n']) = pure (ps.map rule) := by
  induction ps generalizing n with
  | nil => rfl
  | cons p ps ih =>
      obtain ⟨first, rest⟩ := List.forall_mem_cons.mp h
      simp only [List.map_cons, gatherLines, compileLine_written first hs, pure_bind, ih rest]
      rfl

theorem lines_written {ps : List Production} (h : ∀ p ∈ ps, p.IsWritable settings.mode) :
    Text.lines (written ps) = ps.map fun p => p.line ++ ['\n'] :=
  Text.lines_flatMap fun p hp => newline_not_mem_line (h p hp)

theorem gather_written {ps : List Production} (h : ∀ p ∈ ps, p.IsWritable settings.mode)
    (hs : settings.spacing = false) : gather settings (written ps) = pure (ps.map rule) := by
  unfold gather
  rw [lines_written h, gatherLines_written h hs]

end Production

/-! ### Texts -/

namespace Workbench

open Production

variable {σ : Type} [Sampler σ] (w : Workbench σ)

/-- **What can be written is read back.**  A text of productions that can be written is accepted
without spacing, and the sampler is not asked.  From nothing on there is then a rule for each label,
in the order of their first appearance, and it has the alternatives of that label as they were
written and in their order. -/
theorem addSource_written (empty : w.grammar = .empty) (unspaced : w.settings.spacing = false)
    {ps : List Production} (h : ∀ p ∈ ps, p.IsWritable w.settings.mode) :
    (w.addSource (written ps)).1 = .ok () ∧
      w.requests (written ps) = [] ∧
      (w.addSource (written ps)).2.sampler = w.sampler ∧
      (w.addSource (written ps)).2.grammar.rules.toList =
        (newNames [] (ps.map Production.label)).map fun name =>
          { name
            alternatives := (ps.filter fun p => p.label = name).map Production.symbols } := by
  have gathered := gather_written h unspaced
  obtain ⟨result, requests, sampler⟩ := w.addSource_eq_gather (written ps)
  rw [gathered] at result requests sampler
  have compiled : Step.Yields (compile w.settings (written ps) w.grammar) w.sampler
      (w.grammar.extendAll (ps.map rule)) w.sampler := by
    rw [compile_eq_map, gathered, map_pure]
    exact (Step.yields_pure _ _ _ _).mpr ⟨rfl, rfl⟩
  refine ⟨result, requests, sampler, ?_⟩
  rw [w.addSource_of_yields _ compiled, empty, Grammar.rules_extendAll_empty, List.map_map]
  refine List.map_congr_left fun name _ => ?_
  rw [List.filter_map, List.flatMap_map, List.map_eq_flatMap]
  rfl

/-- Labels that end in a colon and hold quotes and spaces; terminals that are empty, that consist of
quotes and that look like patterns, names and line ends; and a label that comes twice. -/
theorem addSource_written_quotes :
    let w : Workbench Prepared := { settings := { mode := .multi }, sampler := ⟨[]⟩ }
    let ps : List Production :=
      [{ label := "a \"b\":".toList, symbols := [.terminal [], .terminal "\"\"".toList] },
        { label := ['c'], symbols := [.terminal "r:".toList, .nonterminal "<\"x\":".toList] },
        { label := "a \"b\":".toList, symbols := [.terminal "<\r".toList] }]
    written ps = "a \"b\":: \"\" \"\"\"\"\nc: \"r:\" <\"x\":\na \"b\":: \"<\r\"\n".toList ∧
      (w.addSource (written ps)).1 = .ok () ∧
      (w.addSource (written ps)).2.grammar.rules.toList =
        [{ name := "a \"b\":".toList
           alternatives :=
            [[.terminal [], .terminal "\"\"".toList], [.terminal "<\r".toList]] },
         { name := ['c']
           alternatives := [[.terminal "r:".toList, .nonterminal "<\"x\":".toList]] }] := by
  intro w ps
  have writable : ∀ p ∈ ps, p.IsWritable w.settings.mode := by decide
  obtain ⟨result, -, -, rules⟩ := w.addSource_written rfl rfl writable
  exact ⟨by decide, result, rules.trans (by decide)⟩

end Workbench
end LineGrammar
