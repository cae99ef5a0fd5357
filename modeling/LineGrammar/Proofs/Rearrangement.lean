import LineGrammar.Proofs.Requests
import Mathlib.Data.Fin.VecNotation
import Mathlib.Data.List.Sort

/-! # Lines in another order

The lines of a source may change places as long as any two lines of one label stay in order
(`Rearranged`).  The lines of a label are then the same, in the same order
(`filter_eq_of_rearranged`), and what a source adds to a rule comes from the lines of its label
alone.  So a source with its lines in another order adds the same alternatives to each rule, and
only the new rules may come in another order (`addSource_rearranged`).

What a line adds must not depend on what has been asked for before it.  The sampler therefore
answers by the request alone (`AnswersBy`), unless no token is taken for a pattern. -/

namespace LineGrammar

/-! ### Rearranged lists -/

/-- The items of `as` are those of `bs`, where any two items of `as` with the same key are in the
same order. -/
def Rearranged {α κ : Type} (key : α → Option κ) (as bs : List α) : Prop :=
  ∃ place : Fin as.length ≃ Fin bs.length, (∀ i, bs.get (place i) = as.get i) ∧
    ∀ i j, i < j → ∀ k, key (as.get i) = some k → key (as.get j) = some k → place i < place j

section Rearranged

variable {α κ : Type} {key : α → Option κ} {as bs : List α}

theorem mem_of_rearranged (h : Rearranged key as bs) {a : α} : a ∈ bs ↔ a ∈ as := by
  obtain ⟨place, same, -⟩ := h
  rw [List.mem_iff_get, List.mem_iff_get, ← place.exists_congr_right]
  simp only [same]

/-- The items of one key are the same, in the same order. -/
theorem filter_eq_of_rearranged [DecidableEq κ] (h : Rearranged key as bs) (k : κ) :
    bs.filter (fun b => key b = some k) = as.filter fun a => key a = some k := by
  obtain ⟨place, same, ordered⟩ := h
  let here := (List.finRange as.length).filter fun i => key (as.get i) = some k
  let there := (List.finRange bs.length).filter fun j => key (bs.get j) = some k
  have whole (cs : List α) : cs.filter (fun c => key c = some k) =
      ((List.finRange cs.length).filter fun i => key (cs.get i) = some k).map cs.get := by
    conv_lhs => rw [← List.map_get_finRange cs, List.filter_map]
    rfl
  have increasing : there.Pairwise (· < ·) := (List.pairwise_lt_finRange _).filter _
  have moved : (here.map place).Pairwise (· < ·) := by
    rw [List.pairwise_map]
    refine ((List.pairwise_lt_finRange _).filter _).imp_of_mem fun {i j} hi hj hij => ?_
    have ki : key (as.get i) = some k := by simpa [here] using hi
    have kj : key (as.get j) = some k := by simpa [here] using hj
    exact ordered i j hij k ki kj
  -- Both lists hold the places of the items of the key, from left to right.
  have places : there = here.map place := by
    refine increasing.eq_of_mem_iff moved fun j => ?_
    obtain ⟨i, rfl⟩ := place.surjective j
    have here_iff : i ∈ here ↔ key (as.get i) = some k := by simp [here]
    have there_iff : place i ∈ there ↔ key (bs.get (place i)) = some k := by simp [there]
    rw [there_iff, same, ← here_iff, List.mem_map_of_injective place.injective]
  calc bs.filter (fun b => key b = some k)
    _ = there.map bs.get := whole bs
    _ = here.map fun i => bs.get (place i) := by rw [places, List.map_map]; rfl
    _ = here.map as.get := by simp only [same]
    _ = as.filter fun a => key a = some k := (whole as).symm

end Rearranged

/-- The label of a line, without the blanks around it, if the line is a rule. -/
def labelOf? (line : Text) : Option Text := (RuleLine.parse? line).map RuleLine.label

/-- The rules among lines that have a given label come from the lines of this label. -/
theorem filter_filterMap_parse? (lines : List Text) (label : Text) :
    (lines.filterMap RuleLine.parse?).filter (fun rule => rule.label = label) =
      (lines.filter fun line => labelOf? line = some label).filterMap RuleLine.parse? := by
  rw [List.filter_filterMap, List.filterMap_filter]
  apply List.filterMap_congr
  intro line _
  unfold labelOf?
  cases RuleLine.parse? line with
  | none => rfl
  | some rule => by_cases hl : rule.label = label <;> simp [hl]

/-! ### Samplers that answer by the request alone -/

variable {σ : Type} [Sampler σ]

/-- Whatever the sampler `s` has been asked before, its answer to a request is that of `f`. -/
def AnswersBy (f : Text → Nat → Except PatternError (List Text)) (s : σ) : Prop :=
  ∀ (past : List (Text × Nat)) (pattern : Text) (count : Nat),
    (Sampler.sample (past.foldl (fun s q => (Sampler.sample s q.1 q.2).2) s) pattern count).1 =
      f pattern count

namespace AnswersBy

variable {f : Text → Nat → Except PatternError (List Text)} {s : σ}

theorem answer (h : AnswersBy f s) (pattern : Text) (count : Nat) :
    (Sampler.sample s pattern count).1 = f pattern count := h [] pattern count

theorem after (h : AnswersBy f s) (pattern : Text) (count : Nat) :
    AnswersBy f (Sampler.sample s pattern count).2 := fun past => h ((pattern, count) :: past)

end AnswersBy

omit [Sampler σ] in
/-- Where each item is made into the same thing whenever the state satisfies `I`, which it keeps, so
are all items. -/
theorem thread_of_invariant {α β : Type} {f : σ → α → β × σ} {g : α → β} {I : σ → Prop}
    (step : ∀ s a, I s → (f s a).1 = g a ∧ I (f s a).2) {s : σ} (hs : I s) (as : List α) :
    (thread f s as).1 = as.map g ∧ I (thread f s as).2 := by
  refine ⟨?_, thread_keeps (fun s a h => (step s a h).2) hs as⟩
  induction as generalizing s with
  | nil => rfl
  | cons a as ih =>
      obtain ⟨now, next⟩ := step s a hs
      rw [thread, now, ih next, List.map_cons]

variable (f : Text → Nat → Except PatternError (List Text)) (settings : Settings)

def readingBy (token : Text) : Reading :=
  { token, answer? := (request? settings.mode settings.samples token).map fun q => f q.1 q.2 }

def lineBy (rule : RuleLine) : ReadLine :=
  { label := rule.label, readings := rule.tokens.map (readingBy f settings) }

/-- No token is taken for a pattern, or the sampler answers by `f`. -/
def Steady (s : σ) : Prop := settings.mode = .plain ∨ AnswersBy f s

variable {f settings}

theorem readToken_of_steady (s : σ) (token : Text) (h : Steady f settings s) :
    (readToken settings s token).1 = readingBy f settings token ∧
      Steady f settings (readToken settings s token).2 := by
  unfold readToken readingBy
  rcases hq : request? settings.mode settings.samples token with _ | ⟨pattern, count⟩
  · exact ⟨rfl, h⟩
  · rcases h with plain | answers
    · rw [plain, request?_plain] at hq
      cases hq
    · exact ⟨by simp [answers.answer], .inr (answers.after pattern count)⟩

theorem readLine_of_steady (s : σ) (rule : RuleLine) (h : Steady f settings s) :
    (readLine settings s rule).1 = lineBy f settings rule ∧
      Steady f settings (readLine settings s rule).2 := by
  obtain ⟨readings, last⟩ := thread_of_invariant readToken_of_steady h rule.tokens
  exact ⟨congrArg (ReadLine.mk rule.label) readings, last⟩

namespace Grammar

variable {g g' : Grammar} {labels : List Text} {added : Text → List Alternative}

theorem names_of_rulesWith (h : g'.rules.toList = g.rulesWith labels added) :
    g'.names = g.names ++ newNames g.names labels := by
  unfold names rulesWith at *
  rw [h, List.map_map]
  exact List.map_id _

/-- The alternatives of a name, told by the labels and by what has been added. -/
theorem alternatives?_of_rulesWith (h : g'.rules.toList = g.rulesWith labels added) (name : Text) :
    g'.alternatives? name =
      if name ∈ g.names ∨ name ∈ labels then some ((g.alternatives? name).getD [] ++ added name)
      else none := by
  split
  · rename_i known
    rw [alternatives?_eq_some_iff, h]
    exact List.mem_map.mpr ⟨name, mem_append_newNames.mpr known, rfl⟩
  · rename_i unknown
    rwa [alternatives?_eq_none_iff, names_of_rulesWith h, mem_append_newNames]

end Grammar

theorem nodup_newNames (g : Grammar) (labels : List Text) : (newNames g.names labels).Nodup := by
  have extended := (g.extendAll (labels.map Rule.bare)).nodup_names
  rw [Grammar.names_of_rulesWith (g.rules_extendAll_eq_rulesWith _), List.map_map] at extended
  have same : labels.map (Rule.name ∘ Rule.bare) = labels := List.map_id labels
  rw [same] at extended
  exact (List.nodup_append.mp extended).2.1

/-- The new names do not depend on the order of the labels, but for their own order. -/
theorem newNames_perm (g : Grammar) {labels labels' : List Text}
    (h : ∀ name, name ∈ labels ↔ name ∈ labels') :
    (newNames g.names labels).Perm (newNames g.names labels') := by
  rw [List.perm_ext_iff_of_nodup (nodup_newNames g labels) (nodup_newNames g labels')]
  intro name
  unfold newNames
  simp only [List.mem_eraseDups, List.mem_filter, h]

/-! ### Sources -/

namespace Workbench

variable {w : Workbench σ} {source source' : Text}

theorem readSource_of_steady (h : Steady f w.settings w.sampler) :
    (w.readSource source).1 =
      ((Text.lines source).filterMap RuleLine.parse?).map (lineBy f w.settings) :=
  (thread_of_invariant readLine_of_steady h _).1

theorem accepts_iff_of_steady (h : Steady f w.settings w.sampler) :
    w.Accepts source ↔ (∀ line ∈ Text.lines source, (RuleLine.parse? line).isSome) ∧
      ∀ line ∈ Text.lines source, ∀ rule, RuleLine.parse? line = some rule →
        ∀ r ∈ (lineBy f w.settings rule).readings, r.Fulfilled w.settings.mode := by
  unfold Accepts
  rw [readSource_of_steady h]
  refine and_congr_right fun _ => ?_
  rw [List.forall_mem_map]
  constructor
  · intro given line hl rule hr
    exact given rule (List.mem_filterMap.mpr ⟨line, hl, hr⟩)
  · intro given rule hr
    obtain ⟨line, hl, hp⟩ := List.mem_filterMap.mp hr
    exact given line hl rule hp

/-- What the lines of a label add comes from the lines of this label, in order. -/
theorem addedBy_of_steady (h : Steady f w.settings w.sampler) (name : Text) :
    addedBy w.settings (w.readSource source).1 name =
      (((Text.lines source).filter fun line => labelOf? line = some name).filterMap
        RuleLine.parse?).flatMap fun rule =>
          alternativesOf w.settings (lineBy f w.settings rule).readings := by
  unfold addedBy
  rw [readSource_of_steady h, List.filter_map, List.flatMap_map, ← filter_filterMap_parse?]
  rfl

theorem mem_labels_of_steady (h : Steady f w.settings w.sampler) (name : Text) :
    name ∈ (w.readSource source).1.map ReadLine.label ↔
      ∃ line ∈ Text.lines source, labelOf? line = some name := by
  have labels : (w.readSource source).1.map ReadLine.label =
      (Text.lines source).filterMap labelOf? := by
    rw [readSource_of_steady h, List.map_map, List.map_filterMap]
    rfl
  rw [labels, List.mem_filterMap]

theorem addSource_ok_iff : (w.addSource source).1 = .ok () ↔ w.Accepts source :=
  ⟨w.accepts_of_addSource source, fun h => by rw [w.addSource_of_accepts source h]⟩

/-- A source that is not accepted leaves the grammar as it is. -/
theorem grammar_of_not_accepts (h : ¬ w.Accepts source) :
    (w.addSource source).2.grammar = w.grammar := by
  rw [← addSource_ok_iff] at h
  unfold addSource at h ⊢
  split
  · rename_i run
    rw [run] at h
    exact absurd rfl h
  · rfl

/-- **Rules do not interfere.**  Where no token is taken for a pattern, or the sampler answers by
the request alone, the lines of a source may change places as long as those of one label stay in
order.  The source is then accepted exactly if it was before, each rule has the same alternatives
after it, and the new rules are the same, though they may come in another order. -/
theorem addSource_rearranged
    (steady : w.settings.mode = .plain ∨ ∃ f, AnswersBy f w.sampler)
    (h : Rearranged labelOf? (Text.lines source) (Text.lines source')) :
    ((w.addSource source').1 = .ok () ↔ (w.addSource source).1 = .ok ()) ∧
      (∀ name, (w.addSource source').2.grammar.alternatives? name =
        (w.addSource source).2.grammar.alternatives? name) ∧
      ∃ new new', (w.addSource source).2.grammar.names = w.grammar.names ++ new ∧
        (w.addSource source').2.grammar.names = w.grammar.names ++ new' ∧ new'.Perm new := by
  obtain ⟨f, steady⟩ : ∃ f, Steady f w.settings w.sampler := by
    rcases steady with plain | ⟨f, answers⟩
    · exact ⟨fun _ _ => .ok [], .inl plain⟩
    · exact ⟨f, .inr answers⟩
  have accepted : w.Accepts source' ↔ w.Accepts source := by
    rw [accepts_iff_of_steady steady, accepts_iff_of_steady steady]
    simp only [mem_of_rearranged h]
  refine ⟨by rw [addSource_ok_iff, addSource_ok_iff, accepted], ?_⟩
  by_cases accepts : w.Accepts source
  · have rules := w.rules_addSource source accepts
    have rules' := w.rules_addSource source' (accepted.mpr accepts)
    have labels (name : Text) : name ∈ (w.readSource source').1.map ReadLine.label ↔
        name ∈ (w.readSource source).1.map ReadLine.label := by
      rw [mem_labels_of_steady steady, mem_labels_of_steady steady]
      simp only [mem_of_rearranged h]
    have added (name : Text) : addedBy w.settings (w.readSource source').1 name =
        addedBy w.settings (w.readSource source).1 name := by
      rw [addedBy_of_steady steady, addedBy_of_steady steady, filter_eq_of_rearranged h]
    refine ⟨fun name => ?_, _, _, Grammar.names_of_rulesWith rules,
      Grammar.names_of_rulesWith rules', newNames_perm w.grammar labels⟩
    rw [Grammar.alternatives?_of_rulesWith rules, Grammar.alternatives?_of_rulesWith rules', added]
    simp only [labels]
  · have kept := grammar_of_not_accepts accepts
    have kept' := grammar_of_not_accepts (mt accepted.mp accepts)
    rw [kept, kept']
    exact ⟨fun _ => rfl, [], [], (List.append_nil _).symm, (List.append_nil _).symm, .refl _⟩

end Workbench

/-- A sampler that answers every request with the pattern itself. -/
structure Echo where

instance : Sampler Echo where
  sample echo pattern _ := (.ok [pattern], echo)

theorem Echo.answersBy (echo : Echo) : AnswersBy (fun pattern _ => .ok [pattern]) echo :=
  fun _ _ _ => rfl

/-- Three lines for two labels, of which one is written with a blank before it, and a rule that is
there already. -/
theorem Workbench.addSource_rearranged_swap :
    let w : Workbench Echo :=
      { grammar := Grammar.empty.extend ['c'] [[.terminal ['0']]]
        settings := { mode := .multi }, sampler := {} }
    let source := "a: rP\n a: y\nb: x\nc: rQ\n".toList
    let source' := "c: rQ\nb: x\na: rP\n a: y\n".toList
    Rearranged labelOf? (Text.lines source) (Text.lines source') ∧
      (w.addSource source).1 = .ok () ∧ (w.addSource source').1 = .ok () ∧
      (w.addSource source').2.grammar.alternatives? ['a'] =
        (w.addSource source).2.grammar.alternatives? ['a'] := by
  intro w source source'
  let place : Fin 4 ≃ Fin 4 :=
    { toFun := ![2, 3, 1, 0]
      invFun := ![3, 2, 0, 1]
      left_inv := fun i => by revert i; decide
      right_inv := fun i => by revert i; decide }
  have swapped : Rearranged labelOf? (Text.lines source) (Text.lines source') :=
    ⟨place, by decide, by decide⟩
  have first : (w.addSource source).1 = .ok () := addSource_ok_iff.mpr (by decide)
  obtain ⟨same, alternatives, -⟩ := addSource_rearranged (.inr ⟨_, w.sampler.answersBy⟩) swapped
  exact ⟨swapped, first, same.mpr first, alternatives ['a']⟩

end LineGrammar
