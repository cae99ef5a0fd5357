import LineGrammar.Pattern.Basic
import Mathlib.Algebra.BigOperators.Group.List.Basic
import Mathlib.Algebra.BigOperators.Ring.List
import Mathlib.Algebra.Order.Monoid.Unbundled.Pow
import Mathlib.Computability.Language
import Mathlib.Order.CompletePartialOrder

/-! # The language of a pattern

The strings that a pattern stands for (`Pattern.language`).  A repetition without an upper bound may
come any number of times, or at most a given number of times more than it has to; both languages are
told at once by `extra`, and the second one is part of the first (`language_le`).  An anchor asks
something of the place where it stands and has no string of its own, so a pattern in which one
cannot be left out has none either.

Making a pattern plain does not change its language: the texts, sets, sequences, choices and
repetitions that `ofSet`, `sequence`, `choice` and `repetition` give stand for the same strings as
what they are made of (`language_ofSet`, `language_sequence`, `language_choice`,
`language_repetition`). -/

namespace LineGrammar

/-- The strings of one character for which `p` holds. -/
def oneOf (p : Char → Prop) : Language Char := {w | ∃ c, p c ∧ w = [c]}

theorem mem_oneOf {p : Char → Prop} {w : Text} : w ∈ oneOf p ↔ ∃ c, p c ∧ w = [c] := Iff.rfl

theorem oneOf_congr {p q : Char → Prop} (h : ∀ c, p c ↔ q c) : oneOf p = oneOf q := by
  ext w
  simp only [mem_oneOf, h]

theorem singleton_nil : ({[]} : Language Char) = 1 := rfl

theorem singleton_append (s t : Text) : ({s ++ t} : Language Char) = {s} * {t} := by
  ext w
  rw [Language.mem_mul]
  constructor
  · rintro rfl
    exact ⟨s, rfl, t, rfl, rfl⟩
  · rintro ⟨_, rfl, _, rfl, rfl⟩
    rfl

namespace Bounds

variable (extra : Option Nat) (b : Bounds)

/-- Something may come `n` times.  Where there is no upper bound, it comes at most `extra` times
more than it has to, if that is given. -/
def Allows (n : Nat) : Prop :=
  b.least ≤ n ∧ match b.most with
    | some m => n ≤ m
    | none => ∀ m ∈ extra, n ≤ b.least + m

/-- Strings of a language one after another, as many as allowed. -/
def language (l : Language Char) : Language Char := {w | ∃ n, b.Allows extra n ∧ w ∈ l ^ n}

variable {extra b}

theorem mem_language {l : Language Char} {w : Text} :
    w ∈ b.language extra l ↔ ∃ n, b.Allows extra n ∧ w ∈ l ^ n := Iff.rfl

theorem allows_least : b.Allows extra b.least := by
  refine ⟨Nat.le_refl _, ?_⟩
  split
  · rename_i m hm
    exact b.le_most m hm
  · exact fun m _ => Nat.le_add_right _ m

/-- Where there is an upper bound, nothing else limits how often something comes. -/
theorem allows_of_most {m : Nat} (h : b.most = some m) (n : Nat) :
    b.Allows extra n ↔ b.least ≤ n ∧ n ≤ m := by
  unfold Allows
  rw [h]

theorem language_eq_one {l : Language Char} (h : b.most = some 0) : b.language extra l = 1 := by
  have least : b.least = 0 := Nat.le_zero.mp (b.le_most 0 h)
  ext w
  simp only [mem_language, allows_of_most h, least, Nat.le_zero]
  constructor
  · rintro ⟨n, ⟨-, rfl⟩, hw⟩
    simpa only [pow_zero] using hw
  · exact fun hw => ⟨0, ⟨Nat.zero_le 0, rfl⟩, by simpa only [pow_zero] using hw⟩

theorem language_eq_self {l : Language Char} (least : b.least = 1) (most : b.most = some 1) :
    b.language extra l = l := by
  ext w
  simp only [mem_language, allows_of_most most, least]
  constructor
  · rintro ⟨n, ⟨low, high⟩, hw⟩
    obtain rfl := Nat.le_antisymm high low
    simpa only [pow_one] using hw
  · exact fun hw => ⟨1, ⟨Nat.le_refl 1, Nat.le_refl 1⟩, by simpa only [pow_one] using hw⟩

/-- What has the empty string at most is the same any number of times, but for none at all. -/
theorem language_of_le_one {l : Language Char} (h : l ≤ 1) :
    b.language extra l = if b.least = 0 then 1 else l := by
  have cases : l = 0 ∨ l = 1 := by
    by_cases nil : [] ∈ l
    · refine .inr (le_antisymm h ?_)
      rintro w rfl
      exact nil
    · refine .inl (le_antisymm (fun w hw => ?_) bot_le)
      obtain rfl : w = [] := h hw
      exact (nil hw).elim
  ext w
  rw [mem_language]
  rcases cases with rfl | rfl
  · constructor
    · rintro ⟨n, ⟨low, -⟩, hw⟩
      rcases Nat.eq_zero_or_pos n with rfl | some
      · rw [if_pos (Nat.le_zero.mp low)]
        simpa only [pow_zero] using hw
      · rw [zero_pow (Nat.ne_of_gt some)] at hw
        exact hw.elim
    · intro hw
      refine ⟨b.least, allows_least, ?_⟩
      split at hw
      · rename_i none
        rwa [none, pow_zero]
      · exact hw.elim
  · rw [ite_self]
    constructor
    · rintro ⟨n, -, hw⟩
      rwa [one_pow] at hw
    · exact fun hw => ⟨b.least, allows_least, by rwa [one_pow]⟩

/-- What has the empty string at most may as well come once at most. -/
theorem language_once {l : Language Char} (h : l ≤ 1) :
    b.once.language extra l = b.language extra l := by
  have same : b.once.least = 0 ↔ b.least = 0 := by
    change min b.least 1 = 0 ↔ _
    omega
  simp only [language_of_le_one h, same]

theorem language_le {l l' : Language Char} (h : l ≤ l') :
    b.language extra l ≤ b.language none l' := by
  rintro w ⟨n, allowed, hw⟩
  refine ⟨n, ⟨allowed.1, ?_⟩, pow_le_pow_left' h n hw⟩
  have high := allowed.2
  split at high
  · exact high
  · exact fun m none => (nomatch none)

end Bounds

/-! ### Patterns -/

namespace Pattern

variable (extra : Option Nat)

/-- The strings that a pattern stands for. -/
def language : Pattern → Language Char
  | text t => {t}
  | one members _ => oneOf fun c => members.set.has c = true
  | anchor _ => 0
  | seq p q => p.language * q.language
  | alt p q => p.language + q.language
  | repeated b _ p => b.language extra p.language
  | group _ p => p.language

/-- A limit on repetitions leaves some of the strings. -/
theorem language_le (p : Pattern) : p.language extra ≤ p.language none := by
  induction p with
  | text | one | anchor => exact le_refl _
  | seq p q ihp ihq => exact mul_le_mul' ihp ihq
  | alt p q ihp ihq => exact sup_le_sup ihp ihq
  | repeated b greedy p ih => exact Bounds.language_le ih
  | group number p ih => exact ih

/-- What is known to have no text has the empty string at most. -/
theorem language_le_one {p : Pattern} (h : p.isTextless = true) : p.language extra ≤ 1 := by
  induction p with
  | text t =>
      obtain rfl : t = [] := List.isEmpty_iff.mp h
      exact le_refl _
  | one => cases h
  | anchor => exact bot_le
  | seq p q ihp ihq =>
      obtain ⟨hp, hq⟩ := Bool.and_eq_true_iff.mp h
      calc p.language extra * q.language extra
        _ ≤ 1 * 1 := mul_le_mul' (ihp hp) (ihq hq)
        _ = 1 := one_mul 1
  | alt p q ihp ihq =>
      obtain ⟨hp, hq⟩ := Bool.and_eq_true_iff.mp h
      exact sup_le (ihp hp) (ihq hq)
  | repeated b greedy p ih =>
      rcases Bool.or_eq_true_iff.mp h with most | textless
      · exact (Bounds.language_eq_one (eq_of_beq most)).le
      · rintro w hw
        change w ∈ b.language extra _ at hw
        rw [Bounds.language_of_le_one (ih textless)] at hw
        split at hw
        · exact hw
        · exact ih textless hw
  | group number p ih => exact ih h

/-! ### Sets -/

theorem language_ofSet (set : CharSet) (ascii : Bool) :
    (ofSet set ascii).language extra = oneOf fun c => set.has c = true := by
  have members : (oneOf fun c => set.characters.set.has c = true) =
      oneOf fun c => set.has c = true := oneOf_congr (CharSet.has_characters set)
  unfold ofSet
  dsimp only
  split
  · exact members
  · rename_i a b only
    split
    · rename_i same
      -- The one code point of the set is that of a character.
      have valid : a.isValidChar := by
        refine set.characters.isValid a ?_
        rw [only, CharSet.covers_cons]
        exact .inl ⟨Nat.le_refl a, Nat.le_of_eq same⟩
      have has (c : Char) : set.characters.set.has c = true ↔ c = Char.ofNat a := by
        unfold CharSet.has
        rw [only, CharSet.covers_cons, CharSet.covers_nil, ← Char.toNat_inj,
          CharSet.toNat_ofNat valid]
        simp only [Bool.false_eq_true, or_false]
        omega
      rw [← members, oneOf_congr has]
      ext w
      rw [mem_oneOf]
      simp only [exists_eq_left]
      rfl
    · exact members
  · exact members

/-! ### Sequences -/

theorem language_parts (p : Pattern) :
    (p.parts.map (language extra)).prod = p.language extra := by
  induction p with
  | seq p q ihp ihq =>
      unfold parts
      rw [List.map_append, List.prod_append, ihp, ihq]
      rfl
  | text t => cases t <;> simp [parts, language, singleton_nil]
  | _ => exact List.prod_singleton

theorem language_joinTexts (ps : List Pattern) :
    ((joinTexts ps).map (language extra)).prod = (ps.map (language extra)).prod := by
  fun_induction joinTexts ps with
  | case1 => rfl
  | case2 s ps t rest same ih =>
      rw [same] at ih
      rw [List.map_cons, List.prod_cons, List.map_cons, List.prod_cons, ← ih, List.map_cons,
        List.prod_cons, ← mul_assoc]
      congr 1
      exact singleton_append s t
  | case3 s ps other ih => rw [List.map_cons, List.prod_cons, ih, List.map_cons, List.prod_cons]
  | case4 p ps notText ih => rw [List.map_cons, List.prod_cons, ih, List.map_cons, List.prod_cons]

theorem language_chain (p : Pattern) (ps : List Pattern) :
    (chain p ps).language extra = ((p :: ps).map (language extra)).prod := by
  induction ps generalizing p with
  | nil => exact List.prod_singleton.symm
  | cons q qs ih =>
      rw [List.map_cons, List.prod_cons, ← ih q]
      rfl

/-- A sequence stands for the strings of its patterns, one after another. -/
theorem language_sequence (ps : List Pattern) :
    (sequence ps).language extra = (ps.map (language extra)).prod := by
  have parts : ((ps.flatMap parts).map (language extra)).prod =
      (ps.map (language extra)).prod := by
    induction ps with
    | nil => rfl
    | cons p ps ih =>
        rw [List.flatMap_cons, List.map_append, List.prod_append, language_parts, ih,
          List.map_cons, List.prod_cons]
  have joined := language_joinTexts extra (ps.flatMap Pattern.parts)
  unfold sequence
  rw [parts] at joined
  split
  · rename_i none
    rw [none] at joined
    exact joined
  · rename_i p rest some
    rw [some] at joined
    rw [language_chain, joined]

/-! ### Choices -/

theorem language_branches (p : Pattern) :
    (p.branches.map (language extra)).sum = p.language extra := by
  induction p with
  | alt p q ihp ihq =>
      unfold branches
      rw [List.map_append, List.sum_append, ihp, ihq]
      rfl
  | _ => exact List.sum_singleton

theorem sum_flatMap_branches (ps : List Pattern) :
    ((ps.flatMap branches).map (language extra)).sum = (ps.map (language extra)).sum := by
  induction ps with
  | nil => rfl
  | cons p ps ih =>
      rw [List.flatMap_cons, List.map_append, List.sum_append, language_branches, ih,
        List.map_cons, List.sum_cons]

theorem language_anyOf (p : Pattern) (ps : List Pattern) :
    (anyOf p ps).language extra = ((p :: ps).map (language extra)).sum := by
  induction ps generalizing p with
  | nil => exact List.sum_singleton.symm
  | cons q qs ih =>
      rw [List.map_cons, List.sum_cons, ← ih q]
      rfl

/-- Where each pattern is a character of a set, their choice is a character of all sets. -/
theorem sum_of_mapM {f : Pattern → Option CharSet}
    (hf : ∀ p s, f p = some s → p.language extra = oneOf fun c => s.has c = true)
    {ps : List Pattern} {sets : List CharSet} (h : ps.mapM f = some sets) :
    (ps.map (language extra)).sum = oneOf fun c => ∃ s ∈ sets, s.has c = true := by
  induction ps generalizing sets with
  | nil =>
      obtain rfl : [] = sets := Option.some.inj h
      ext w
      simp [mem_oneOf]
  | cons p ps ih =>
      rw [List.mapM_cons] at h
      obtain ⟨s, hs, h⟩ := Option.bind_eq_some_iff.mp h
      obtain ⟨rest, hrest, h⟩ := Option.bind_eq_some_iff.mp h
      obtain rfl := Option.some.inj h
      rw [List.map_cons, List.sum_cons, hf p s hs, ih hrest]
      ext w
      simp only [Language.mem_add, mem_oneOf, List.mem_cons, or_and_right, exists_or,
        exists_eq_left]

theorem language_of_character? {p : Pattern} {s : CharSet} (h : p.character? = some s) :
    p.language extra = oneOf fun c => s.has c = true := by
  unfold character? at h
  split at h
  · rename_i c
    obtain rfl := Option.some.inj h
    ext w
    simp only [CharSet.has_single, mem_oneOf, exists_eq_left]
    rfl
  · cases h

theorem language_of_set? {p : Pattern} {s : CharSet} (h : p.set? = some s) :
    p.language extra = oneOf fun c => s.has c = true := by
  unfold set? at h
  split at h
  · obtain rfl := Option.some.inj h
    rfl
  · cases h

theorem language_unite (ps : List Pattern) :
    (unite ps).language extra = (ps.map (language extra)).sum := by
  unfold unite
  split
  · rw [language_ofSet]
    ext w
    simp [mem_oneOf, CharSet.has]
  · exact List.sum_singleton.symm
  · rename_i p ps _
    split
    · rename_i sets h
      rw [language_ofSet, oneOf_congr (CharSet.has_unions sets)]
      rw [Option.orElse_eq_orElse, Option.orElse_eq_or, Option.or_eq_some_iff] at h
      rcases h with characters | ⟨-, classes⟩
      · exact (sum_of_mapM extra (fun _ _ => language_of_character? extra) characters).symm
      · exact (sum_of_mapM extra (fun _ _ => language_of_set? extra) classes).symm
    · exact language_anyOf extra p ps

theorem commonStart_prefix (ps qs : List Pattern) :
    commonStart ps qs <+: ps ∧ commonStart ps qs <+: qs := by
  fun_induction commonStart ps qs with
  | case1 p ps qs ih =>
      exact ⟨List.cons_prefix_cons.mpr ⟨rfl, ih.1⟩, List.cons_prefix_cons.mpr ⟨rfl, ih.2⟩⟩
  | case2 => exact ⟨List.nil_prefix, List.nil_prefix⟩
  | case3 => exact ⟨List.nil_prefix, List.nil_prefix⟩

theorem commonStartOfAll_prefix {lists : List (List Pattern)} {ps : List Pattern}
    (h : ps ∈ lists) : commonStartOfAll lists <+: ps := by
  have folded (rest : List (List Pattern)) (first : List Pattern) :
      rest.foldl commonStart first <+: first ∧
        ∀ qs ∈ rest, rest.foldl commonStart first <+: qs := by
    induction rest generalizing first with
    | nil => exact ⟨List.prefix_rfl, fun _ h => (List.not_mem_nil h).elim⟩
    | cons qs rest ih =>
        obtain ⟨start, later⟩ := ih (commonStart first qs)
        obtain ⟨left, right⟩ := commonStart_prefix first qs
        exact ⟨start.trans left, List.forall_mem_cons.mpr ⟨start.trans right, later⟩⟩
  unfold commonStartOfAll
  cases lists with
  | nil => exact (List.not_mem_nil h).elim
  | cons first rest =>
      rcases List.mem_cons.mp h with rfl | later
      · exact (folded rest ps).1
      · exact (folded rest first).2 ps later

theorem sharedStart_prefix {lists : List (List Pattern)} {ps : List Pattern} (h : ps ∈ lists) :
    sharedStart lists <+: ps := by
  unfold sharedStart
  split
  · exact commonStartOfAll_prefix h
  · exact List.nil_prefix

/-- What all branches start with may stand in front of the choice of their rests. -/
theorem language_factored {start ps : List Pattern} (h : ∀ p ∈ ps, start <+: p.parts) :
    (sequence (start ++ [unite ((ps.map fun p =>
      sequence (p.parts.drop start.length)).flatMap branches)])).language extra =
        (ps.map (language extra)).sum := by
  have whole (p : Pattern) (hp : p ∈ ps) : p.language extra =
      (start.map (language extra)).prod *
        (sequence (p.parts.drop start.length)).language extra := by
    obtain ⟨rest, cut⟩ := h p hp
    rw [language_sequence, ← language_parts extra p, ← cut, List.map_append, List.prod_append,
      List.drop_left]
  rw [language_sequence, List.map_append, List.prod_append, List.map_singleton,
    List.prod_singleton, language_unite, sum_flatMap_branches, List.map_map,
    ← List.sum_map_mul_left]
  exact congrArg List.sum (List.map_congr_left fun p hp => (whole p hp).symm)

/-- A choice stands for the strings of all its patterns. -/
theorem language_choice (ps : List Pattern) :
    (choice ps).language extra = (ps.map (language extra)).sum := by
  rw [← sum_flatMap_branches]
  unfold choice
  dsimp only
  split
  · exact language_unite extra _
  · rw [List.map_map]
    exact language_factored extra fun p hp => sharedStart_prefix (List.mem_map_of_mem hp)

/-- A repetition stands for the strings of its pattern, as many as allowed one after another. -/
theorem language_repetition (b : Bounds) (greedy : Bool) (p : Pattern) :
    (repetition b greedy p).language extra = b.language extra (p.language extra) := by
  have same : (if p.isTextless then b.once else b).language extra (p.language extra) =
      b.language extra (p.language extra) := by
    split
    · rename_i textless
      exact Bounds.language_once (language_le_one extra textless)
    · rfl
  unfold repetition
  rw [← same]
  generalize (if p.isTextless then b.once else b) = bounds
  dsimp only
  split
  · rename_i none
    exact (Bounds.language_eq_one none).symm
  · split
    · rename_i once
      exact (Bounds.language_eq_self once.1 once.2).symm
    · rfl

end Pattern
end LineGrammar
