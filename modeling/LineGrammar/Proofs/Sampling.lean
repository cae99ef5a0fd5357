import LineGrammar.Pattern.Sampler
import LineGrammar.Proofs.Pattern.Drawing
import LineGrammar.Proofs.Pattern.Meaning
import LineGrammar.Random.ChaCha

/-! # Sampling

What the sampler that draws strings answers (`RandomSampler.sampling_sound`).  A pattern is accepted
or not whatever the source of randomness is and however many strings are asked for.  If it is
accepted, as many strings are drawn as are asked for, and each is one that the pattern stands for as
it is written.  If it is refused, the answer is an error that carries the pattern, and the sampler
is as it was before; so what is drawn afterwards does not depend on the patterns that were refused.

There is a third case, in which nothing is answered at all: drawing is set up for a class that has
no members, and the program ends. -/

namespace LineGrammar

open Written

/-- A class without members stands somewhere in the pattern. -/
def Pattern.HasEmptyClass : Pattern → Prop
  | one members _ => ∀ c, ¬ members.set.has c = true
  | seq p q | alt p q => p.HasEmptyClass ∨ q.HasEmptyClass
  | repeated _ _ p | group _ p => p.HasEmptyClass
  | text _ | anchor _ => False

/-- If numbers are kept as they are, nothing but an empty class ends the program. -/
theorem Pattern.hasEmptyClass_of_plan {maxRepeat : Nat} {p : Pattern} {fault : PlanFault}
    (h : p.plan .exact maxRepeat = .error fault) (ends : fault ≠ .anchor) : p.HasEmptyClass := by
  induction p with
  | text t => cases h
  | one members ascii =>
      unfold plan at h
      split at h
      · cases h
      · rename_i none
        intro c
        exact CharSet.size_eq_zero_iff.mp (Nat.eq_zero_of_not_pos none) c.toNat
  | anchor a =>
      exact absurd (Except.error.inj h).symm ends
  | seq p q ihp ihq | alt p q ihp ihq =>
      rcases bind_eq_error_iff.mp h with first | ⟨_, -, h⟩
      · exact .inl (ihp first)
      · rcases bind_eq_error_iff.mp h with second | ⟨_, -, h⟩
        · exact .inr (ihq second)
        · cases h
  | repeated b greedy p ih =>
      unfold plan at h
      dsimp only at h
      split at h
      · cases h
      · rcases bind_eq_error_iff.mp h with inner | ⟨_, -, h⟩
        · exact ih inner
        · split at h
          · cases h
          · split at h
            · cases h
            · rename_i cut
              exact (cut (b.least_le_limit maxRepeat)).elim
  | group number p ih => exact ih h

theorem Pattern.plan_ofSet_of_empty {counting : Counting} {maxRepeat : Nat} {set : CharSet}
    (h : ∀ c, ¬ set.has c = true) (ascii : Bool) :
    (ofSet set ascii).plan counting maxRepeat = .error .emptyClass := by
  have uncovered (n : Nat) : ¬ set.characters.set.covers n = true := by
    intro covered
    have member : set.characters.set.has (Char.ofNat n) = true := CharClass.has_ofNat covered
    exact h (Char.ofNat n) ((CharSet.has_characters set _).mp member)
  have none : ¬ 0 < set.characters.set.size := by
    rw [CharSet.size_eq_zero_iff.mpr uncovered]
    exact Nat.lt_irrefl 0
  unfold ofSet
  dsimp only
  split
  · exact dif_neg none
  · rename_i a b only
    split
    · rename_i same
      refine (uncovered a ?_).elim
      rw [only, CharSet.covers_cons]
      exact .inl ⟨Nat.le_refl a, Nat.le_of_eq same⟩
    · exact dif_neg none
  · exact dif_neg none

namespace RandomSampler

variable {ρ : Type}

/-- Strings can be drawn for the pattern. -/
def accepts (s : RandomSampler ρ) (pattern : Text) : Bool :=
  match s.prepare? pattern with
  | some (.ok _) => true
  | _ => false

/-- No number of repetitions that comes up for the pattern is cut off. -/
def CountsFit (s : RandomSampler ρ) (pattern : Text) : Prop :=
  ∀ p, Pattern.ofText pattern = .ok p → s.counting.Fits (p.countBound s.maxRepeat)

variable [RandomSource ρ]

/-- The answers to calls that are made one after another and the sampler after them, unless the
program ends with one of them. -/
def answers? (s : RandomSampler ρ) :
    List (Text × Nat) → Option (List (Except PatternError (List Text)) × RandomSampler ρ)
  | [] => some ([], s)
  | call :: calls => do
    let (answer, s) ← s.answer? call.1 call.2
    let (answers, s) ← s.answers? calls
    return (answer :: answers, s)

variable {s : RandomSampler ρ} {pattern : Text}

omit [RandomSource ρ] in
theorem exists_of_accepts (h : s.accepts pattern = true) :
    ∃ plan, s.prepare? pattern = some (.ok plan) := by
  unfold accepts at h
  split at h
  · rename_i plan prepared
    exact ⟨plan, prepared⟩
  · cases h

omit [RandomSource ρ] in
theorem exists_of_prepare? {plan : Plan} (h : s.prepare? pattern = some (.ok plan)) :
    ∃ p, Pattern.ofText pattern = .ok p ∧ p.plan s.counting s.maxRepeat = .ok plan := by
  unfold prepare? at h
  split at h
  · cases h
  · rename_i p read
    split at h
    · cases h
    · cases h
    · cases h
    · rename_i plan' planned
      obtain rfl := Except.ok.inj (Option.some.inj h)
      exact ⟨p, read, planned⟩

omit [RandomSource ρ] in
/-- If numbers are kept as they are, the program ends only with an empty class. -/
theorem hasEmptyClass_of_prepare? (exact : s.counting = .exact)
    (h : s.prepare? pattern = none) :
    ∃ p, Pattern.ofText pattern = .ok p ∧ p.HasEmptyClass := by
  unfold prepare? at h
  split at h
  · cases h
  · rename_i p read
    rw [exact] at h
    split at h
    · cases h
    · rename_i planned
      exact ⟨p, read, Pattern.hasEmptyClass_of_plan planned (by simp)⟩
    · rename_i planned
      exact ⟨p, read, Pattern.hasEmptyClass_of_plan planned (by simp)⟩
    · cases h

omit [RandomSource ρ] in
/-- What is drawn for an accepted pattern is among the strings of its written form. -/
theorem language_prepare? {plan : Plan} (h : s.prepare? pattern = some (.ok plan)) :
    ∃ tree, Tree.read pattern = .ok tree ∧
      tree.language (some s.maxRepeat) {} ≤ tree.language none {} ∧
      (s.CountsFit pattern → plan.language ≤ tree.language (some s.maxRepeat) {} ∧
        s.counting.Fits plan.countBound) := by
  obtain ⟨p, hp, planned⟩ := exists_of_prepare? h
  obtain ⟨tree, read, meant⟩ := bind_eq_ok_iff.mp hp
  obtain ⟨⟨q, o⟩, meaning, same⟩ := bind_eq_ok_iff.mp meant
  obtain rfl := Except.ok.inj same
  have language (extra : Option Nat) : q.language extra = tree.language extra {} :=
    (tree.language_meaning extra meaning).1
  refine ⟨tree, read, ?_, fun fit => ?_⟩
  · rw [← language, ← language]
    exact q.language_le _
  · have fits := fit q hp
    obtain ⟨part, bound⟩ := Pattern.language_plan planned fits
    rw [language] at part
    exact ⟨part, fits.mono bound⟩

/-! ### Answers to one call -/

/-- As many strings are drawn as are asked for, each of them for the plan. -/
theorem drawAll_spec (counting : Counting) (plan : Plan) (count : Nat) (before : List Text)
    (r : ρ) :
    ∃ strings, (drawAll counting plan count before r).1 = before.reverse ++ strings ∧
      strings.length = count ∧ ∀ w ∈ strings, ∃ r : ρ, w = (plan.draw counting r).1 := by
  induction count generalizing before r with
  | zero => exact ⟨[], (List.append_nil _).symm, rfl, fun _ h => (List.not_mem_nil h).elim⟩
  | succ count ih =>
      obtain ⟨strings, drawn, length, each⟩ :=
        ih ((plan.draw counting r).1 :: before) (plan.draw counting r).2
      refine ⟨(plan.draw counting r).1 :: strings, ?_, congrArg (· + 1) length,
        List.forall_mem_cons.mpr ⟨⟨r, rfl⟩, each⟩⟩
      unfold drawAll
      dsimp only
      rw [drawn, List.reverse_cons, List.append_assoc, List.singleton_append]

/-- The strings that are drawn for an accepted pattern. -/
theorem answer?_of_accepts (h : s.accepts pattern = true) :
    ∃ tree, Tree.read pattern = .ok tree ∧ ∀ count, ∃ strings source,
      s.answer? pattern count = some (.ok strings, { s with source }) ∧
        strings.length = count ∧
        (s.CountsFit pattern → ∀ w ∈ strings,
          w ∈ tree.language none {} ∧ w ∈ tree.language (some s.maxRepeat) {}) := by
  obtain ⟨plan, prepared⟩ := exists_of_accepts h
  obtain ⟨tree, read, limited, part⟩ := language_prepare? prepared
  refine ⟨tree, read, fun count => ?_⟩
  obtain ⟨strings, drawn, length, each⟩ := drawAll_spec s.counting plan count [] s.source
  refine ⟨strings, (drawAll s.counting plan count [] s.source).2, ?_, length, fun fit w hw => ?_⟩
  · unfold answer?
    rw [prepared]
    dsimp only
    rw [drawn]
    rfl
  · obtain ⟨language, fits⟩ := part fit
    obtain ⟨r, rfl⟩ := each w hw
    have mem := language (plan.draw_mem fits r)
    exact ⟨limited mem, mem⟩

/-- A pattern that is not accepted is refused or ends the program, however many strings are asked
for. -/
theorem answer?_of_not_accepts (h : s.accepts pattern = false) :
    (∃ reason, ∀ count, s.answer? pattern count = some (.error { pattern, reason }, s)) ∨
      ∀ count, s.answer? pattern count = none := by
  unfold answer?
  cases prepared : s.prepare? pattern with
  | none => exact .inr fun _ => rfl
  | some result =>
      cases result with
      | error fault => exact .inl ⟨fault.reason (s.picture pattern), fun _ => rfl⟩
      | ok plan =>
          unfold accepts at h
          rw [prepared] at h
          cases h

theorem answer?_eq_none_iff {count : Nat} :
    s.answer? pattern count = none ↔ s.prepare? pattern = none := by
  unfold answer?
  cases s.prepare? pattern with
  | none => exact iff_of_true rfl rfl
  | some result =>
      cases result with
      | error fault => exact iff_of_false (Option.some_ne_none _) (Option.some_ne_none _)
      | ok plan => exact iff_of_false (Option.some_ne_none _) (Option.some_ne_none _)

/-! ### Answers to call after call -/

theorem answers?_cons {s₁ s₂ : RandomSampler ρ} {call : Text × Nat} {calls : List (Text × Nat)}
    {answer : Except PatternError (List Text)} {later : List (Except PatternError (List Text))}
    (first : s.answer? call.1 call.2 = some (answer, s₁))
    (rest : s₁.answers? calls = some (later, s₂)) :
    s.answers? (call :: calls) = some (answer :: later, s₂) := by
  unfold answers?
  rw [first, Option.bind_eq_bind, Option.bind_some]
  dsimp only
  rw [rest]
  rfl

/-- Calls that are refused make no difference to the others. -/
theorem answers?_accepted {s s' : RandomSampler ρ} {calls : List (Text × Nat)}
    {answers : List (Except PatternError (List Text))} (h : s.answers? calls = some (answers, s')) :
    ∃ kept, s.answers? (calls.filter fun call => s.accepts call.1) = some (kept, s') ∧
      (calls.zip answers).filter (fun answered => s.accepts answered.1.1) =
        (calls.filter fun call => s.accepts call.1).zip kept := by
  induction calls generalizing s answers with
  | nil =>
      obtain ⟨rfl, rfl⟩ := Prod.mk.inj (Option.some.inj h)
      exact ⟨[], rfl, rfl⟩
  | cons call calls ih =>
      obtain ⟨⟨answer, s₁⟩, given, h⟩ := Option.bind_eq_some_iff.mp h
      obtain ⟨⟨later, s₂⟩, rest, h⟩ := Option.bind_eq_some_iff.mp h
      obtain ⟨rfl, rfl⟩ := Prod.mk.inj (Option.some.inj h)
      obtain ⟨kept, again, same⟩ := ih rest
      cases taken : s.accepts call.1 with
      | true =>
          obtain ⟨tree, -, sampled⟩ := answer?_of_accepts taken
          obtain ⟨strings, source, drawn, -⟩ := sampled call.2
          -- After the call, the sampler accepts the patterns that it has accepted before.
          obtain ⟨rfl, rfl⟩ := Prod.mk.inj (Option.some.inj (given.symm.trans drawn))
          refine ⟨.ok strings :: kept, ?_, ?_⟩
          · rw [List.filter_cons, if_pos taken]
            exact answers?_cons drawn again
          · rw [List.zip_cons_cons, List.filter_cons, if_pos taken, List.filter_cons, if_pos taken]
            exact congrArg ((call, .ok strings) :: ·) same
      | false =>
          have other : ¬ s.accepts call.1 = true := Bool.eq_false_iff.mp taken
          have unchanged : s₁ = s := by
            rcases answer?_of_not_accepts taken with ⟨reason, refused⟩ | ends
            · exact (Prod.mk.inj (Option.some.inj (given.symm.trans (refused call.2)))).2
            · rw [ends] at given
              cases given
          subst unchanged
          refine ⟨kept, ?_, ?_⟩
          · rw [List.filter_cons, if_neg other]
            exact again
          · rw [List.zip_cons_cons, List.filter_cons, if_neg other, List.filter_cons, if_neg other]
            exact same

/-- **Sampling is sound.**  For every state of the sampler, and so for every source of randomness
and every limit on repetitions:

If the pattern is accepted, as many strings are drawn as are asked for.  Each is a string of the
pattern as it is written, and one where no repetition without an upper bound comes more than
`maxRepeat` times more than it has to, as long as no number of repetitions is cut off.

If the pattern is not accepted and the program goes on, the answer is the same error however many
strings are asked for.  It carries the pattern, and the sampler is as it was before.

In call after call, the answers to accepted patterns and the last state are those of the calls
without the refused ones.

If numbers of repetitions are kept as they are, the program ends only with a pattern that has a
class without members, however many strings are asked for.

What is answered is what a dialogue with the sampler is answered, and where nothing is answered it
has no result. -/
theorem sampling_sound (s : RandomSampler ρ) :
    (∀ pattern, s.accepts pattern = true →
      ∃ tree, Tree.read pattern = .ok tree ∧ ∀ count, ∃ strings source,
        s.answer? pattern count = some (.ok strings, { s with source }) ∧
          strings.length = count ∧
          (s.CountsFit pattern → ∀ w ∈ strings,
            w ∈ tree.language none {} ∧ w ∈ tree.language (some s.maxRepeat) {})) ∧
      (∀ pattern, s.accepts pattern = false →
        (∃ reason, ∀ count,
          s.answer? pattern count = some (.error { pattern, reason }, s)) ∨
        ∀ count, s.answer? pattern count = none) ∧
      (∀ calls answers s', s.answers? calls = some (answers, s') →
        ∃ kept, s.answers? (calls.filter fun call => s.accepts call.1) = some (kept, s') ∧
          (calls.zip answers).filter (fun answered => s.accepts answered.1.1) =
            (calls.filter fun call => s.accepts call.1).zip kept) ∧
      (s.counting = .exact → ∀ pattern count, s.answer? pattern count = none →
        ∃ p, Pattern.ofText pattern = .ok p ∧ p.HasEmptyClass) ∧
      ∀ pattern count, PartialSampler.sample? s pattern count = s.answer? pattern count := by
  refine ⟨fun _ => answer?_of_accepts, fun _ => answer?_of_not_accepts,
    fun _ _ _ => answers?_accepted, fun exact _ _ ends => ?_, fun _ _ => rfl⟩
  exact hasEmptyClass_of_prepare? exact (answer?_eq_none_iff.mp ends)

/-- The program ends with a class of two characters that exclude each other. -/
theorem answer?_of_disjoint (s : RandomSampler ρ) (count : Nat) :
    s.answer? "[a&&b]".toList count = none := by
  have read : Pattern.ofText "[a&&b]".toList =
      .ok (.ofSet (CharSet.intersect (.single 'a') (.single 'b')) false) := rfl
  rw [answer?_eq_none_iff]
  unfold prepare?
  rw [read]
  dsimp only
  rw [Pattern.plan_ofSet_of_empty fun c => ?_]
  rw [CharSet.has_intersect, CharSet.has_single, CharSet.has_single]
  rintro ⟨rfl, b⟩
  cases b

/-- A pattern with a repetition of a repetition, after one that is not closed. -/
theorem sampling_sound_nested :
    let s : RandomSampler ChaCha :=
      { source := .ofSeed 7, maxRepeat := 2, counting := .exact
        picture := fun pattern => "    ".toList ++ pattern ++ "\n    ^\n".toList }
    let nested := "(?:a?){2,}".toList
    let unclosed := "(".toList
    let calls := [(unclosed, 0), (nested, 5)]
    (∃ tree strings source reason, Tree.read nested = .ok tree ∧ strings.length = 5 ∧
      (∀ w ∈ strings, w ∈ tree.language (some 2) {}) ∧
        PartialSampler.sample? s nested 5 = some (.ok strings, { s with source }) ∧
        s.answers? calls =
          some ([.error { pattern := unclosed, reason }, .ok strings], { s with source }) ∧
        ∃ kept, s.answers? [(nested, 5)] = some (kept, { s with source }) ∧
          [((nested, 5), .ok strings)] = [(nested, 5)].zip kept) ∧
      ∃ p, Pattern.ofText "[a&&b]".toList = .ok p ∧ p.HasEmptyClass := by
  intro s nested unclosed calls
  have letter : Pattern.ofSet (.single 'a') false = .text ['a'] := by
    have members : (CharSet.single 'a').characters.set = [(97, 97)] := by
      simp [CharSet.characters, CharSet.complement, CharSet.ordered, CharSet.byStart,
        List.mergeSort, List.MergeSort.Internal.splitInTwo, CharSet.surrogates, CharSet.single,
        CharSet.joinFrom, CharSet.gapsFrom]
    unfold Pattern.ofSet
    dsimp only
    split <;> simp_all
  have read : Pattern.ofText nested =
      .ok (.repeated ⟨2, none, by simp⟩ true
        (.repeated ⟨0, some 1, by simp⟩ true (.text ['a']))) := by
    have spelled : Pattern.ofText nested =
        .ok (.repetition ⟨2, none, by simp⟩ true
          (.repetition ⟨0, some 1, by simp⟩ true (.ofSet (.single 'a') false))) := rfl
    rw [spelled, letter]
    rfl
  have taken : s.accepts nested = true := by
    unfold accepts prepare?
    rw [read]
    rfl
  have refused : s.accepts unclosed = false := rfl
  obtain ⟨accepted, rejected, apart, ended, sampled⟩ := sampling_sound s
  obtain ⟨tree, written, drawn⟩ := accepted nested taken
  obtain ⟨strings, source, given, length, each⟩ := drawn 5
  have goesOn : s.answer? unclosed 0 ≠ none := Option.some_ne_none _
  obtain ⟨reason, error⟩ := (rejected unclosed refused).resolve_right fun ends => goesOn (ends 0)
  -- The call that is refused is made first.
  have both : s.answers? calls =
      some ([.error { pattern := unclosed, reason }, .ok strings], { s with source }) :=
    answers?_cons (error 0) (answers?_cons given rfl)
  have others : calls.filter (fun call => s.accepts call.1) = [(nested, 5)] := by
    simp only [calls, List.filter_cons, refused, taken, Bool.false_eq_true, if_false, if_true,
      List.filter_nil]
  obtain ⟨kept, alone, same⟩ := apart calls _ _ both
  rw [others] at alone same
  simp only [calls, List.zip_cons_cons, List.zip_nil_left, List.filter_cons, refused, taken,
    Bool.false_eq_true, if_false, if_true, List.filter_nil] at same
  have ends : s.answer? "[a&&b]".toList 1 = none := answer?_of_disjoint s 1
  refine ⟨⟨tree, strings, source, reason, written, length, fun w hw => ?_,
    (sampled _ _).trans given, both, kept, alone, same⟩, ended rfl _ 1 ends⟩
  exact (each (fun _ _ => .inl rfl) w hw).2

/-- A pattern that can be read, for which there is no answer: neither strings nor an error. -/
theorem no_answer_emptyClass :
    let s : RandomSampler ChaCha :=
      { source := .ofSeed 1, counting := .exact, picture := fun pattern => pattern }
    s.answer? "[a&&b]".toList 1 = none := by
  intro s
  exact answer?_of_disjoint s 1

end RandomSampler
end LineGrammar
