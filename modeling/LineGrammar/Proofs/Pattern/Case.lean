import LineGrammar.Unicode.CaseFold
import Mathlib.Data.List.Sort

/-! # Sets closed under case

Two characters differ in case only if they fold to the same one (`SameCase`), where every character
also stands for itself.  A set that is closed under case has exactly the characters that differ in
case only from a member (`has_closeCase`, `has_closeAsciiCase`).

The set is made by one walk along the pairs of the folding and one along the pairs the other way
round.  A walk goes through the pairs and the intervals side by side, so it needs both in increasing
order (`covers_images`). -/

namespace LineGrammar.CharSet

def IsIncreasing (pairs : List (Nat × Nat)) : Prop := pairs.Pairwise fun p q => p.1 ≤ q.1

/-- The walk finds what the members of an ordered set lead to. -/
theorem covers_images {pairs : List (Nat × Nat)} {s : CharSet} {start : Nat}
    (increasing : IsIncreasing pairs) (hs : IsOrderedFrom start s) (n : Nat) :
    (images pairs s).covers n = true ↔ ∃ m, (m, n) ∈ pairs ∧ s.covers m = true := by
  fun_induction images pairs s generalizing start with
  | case1 c d pairs a b s before ih =>
      -- The interval ends before the first pair, and so before all pairs.
      rw [ih increasing hs.2.2]
      refine exists_congr fun m => and_congr_right fun hm => ?_
      have cm : c ≤ m := by
        rcases List.mem_cons.mp hm with same | later
        · exact Nat.le_of_eq (Prod.mk.inj same).1.symm
        · exact (List.pairwise_cons.mp increasing).1 _ later
      rw [covers_cons]
      exact (or_iff_right (by omega)).symm
  | case2 c d pairs a b s notBefore after ih =>
      -- The first pair starts before the interval, and so before all intervals.
      rw [ih (List.pairwise_cons.mp increasing).2 hs]
      refine exists_congr fun m => and_congr_left fun hm => ?_
      have fromFirst : IsOrderedFrom a ((a, b) :: s) := ⟨Nat.le_refl a, hs.2⟩
      have am : a ≤ m := fromFirst.le_of_covers hm
      rw [List.mem_cons, Prod.mk.injEq]
      exact (or_iff_right (by omega)).symm
  | case3 c d pairs a b s notBefore notAfter ih =>
      rw [covers_cons, ih (List.pairwise_cons.mp increasing).2 hs]
      have inside : covers ((a, b) :: s) c = true := (covers_cons _ _ _ _).mpr (.inl (by omega))
      constructor
      · rintro (here | ⟨m, hm, member⟩)
        · obtain rfl : d = n := by omega
          exact ⟨c, List.mem_cons_self, inside⟩
        · exact ⟨m, List.mem_cons_of_mem _ hm, member⟩
      · rintro ⟨m, hm, member⟩
        rcases List.mem_cons.mp hm with same | later
        · obtain ⟨-, rfl⟩ := Prod.mk.inj same
          exact .inl ⟨Nat.le_refl n, Nat.le_refl n⟩
        · exact .inr ⟨m, later, member⟩
  | case4 pairs s other =>
      rcases pairs with _ | ⟨p, pairs⟩
      · simp
      · rcases s with _ | ⟨i, s⟩
        · simp
        · exact (other p.1 p.2 pairs i.1 i.2 s rfl rfl).elim

/-- A character folds to itself or to the one that a pair leads to. -/
def FoldsTo (pairs : List (Nat × Nat)) (c d : Char) : Prop :=
  c = d ∨ (c.toNat, d.toNat) ∈ pairs

/-- Two characters differ in case only: they fold to the same one. -/
def SameCase (pairs : List (Nat × Nat)) (c d : Char) : Prop :=
  ∃ e, FoldsTo pairs c e ∧ FoldsTo pairs d e

/-- The pairs are in increasing order and lead from characters to characters. -/
structure IsFolding (pairs : List (Nat × Nat)) : Prop where
  increasing : IsIncreasing pairs
  valid : ∀ p ∈ pairs, p.1.isValidChar ∧ p.2.isValidChar

theorem mem_inverse {pairs : List (Nat × Nat)} {m n : Nat} :
    (m, n) ∈ inverse pairs ↔ (n, m) ∈ pairs := by
  unfold inverse
  rw [List.mem_mergeSort, List.mem_map]
  constructor
  · rintro ⟨⟨i, j⟩, hp, same⟩
    obtain ⟨rfl, rfl⟩ := Prod.mk.inj same
    exact hp
  · exact fun hp => ⟨(n, m), hp, rfl⟩

theorem isIncreasing_inverse (pairs : List (Nat × Nat)) : IsIncreasing (inverse pairs) :=
  pairwise_mergeSort_fst (pairs.map Prod.swap)

/-- A set together with what its members lead to.  The walk takes the set in order. -/
theorem covers_unions_images {pairs : List (Nat × Nat)} {s t : CharSet}
    (increasing : IsIncreasing pairs) (ordered : IsOrderedFrom 0 t)
    (same : ∀ m, t.covers m = true ↔ s.covers m = true) (n : Nat) :
    (unions [s, images pairs t]).covers n = true ↔
      ∃ m, s.covers m = true ∧ (m = n ∨ (m, n) ∈ pairs) := by
  unfold unions
  rw [covers_ordered, covers_flatten]
  simp only [List.mem_cons, List.not_mem_nil, or_false, exists_eq_or_imp, exists_eq_left,
    covers_images increasing ordered]
  constructor
  · rintro (member | ⟨m, hm, member⟩)
    · exact ⟨n, member, .inl rfl⟩
    · exact ⟨m, (same m).mp member, .inr hm⟩
  · rintro ⟨m, member, rfl | hm⟩
    · exact .inl member
    · exact .inr ⟨m, hm, (same m).mpr member⟩

theorem covers_closeBy {pairs : List (Nat × Nat)} (increasing : IsIncreasing pairs) (s : CharSet)
    (n : Nat) :
    (closeBy pairs (inverse pairs) s).covers n = true ↔
      ∃ k, (∃ m, s.covers m = true ∧ (m = k ∨ (m, k) ∈ pairs)) ∧ (n = k ∨ (n, k) ∈ pairs) := by
  have folded (k : Nat) : (unions [s, images pairs s.ordered]).covers k = true ↔
      ∃ m, s.covers m = true ∧ (m = k ∨ (m, k) ∈ pairs) :=
    covers_unions_images increasing (isOrderedFrom_ordered s) (covers_ordered s) k
  have ordered : IsOrderedFrom 0 (unions [s, images pairs s.ordered]) := isOrderedFrom_ordered _
  unfold closeBy
  rw [covers_unions_images (isIncreasing_inverse pairs) ordered fun _ => Iff.rfl]
  simp only [folded, mem_inverse, eq_comm (a := n)]

/-- A set is closed by the characters that differ in case only from a member. -/
theorem has_closeBy {pairs : List (Nat × Nat)} (folding : IsFolding pairs) (s : CharSet)
    (c : Char) :
    (closeBy pairs (inverse pairs) s).has c = true ↔
      ∃ d, s.has d = true ∧ SameCase pairs c d := by
  unfold has
  rw [covers_closeBy folding.increasing]
  constructor
  · rintro ⟨k, ⟨m, member, mk⟩, ck⟩
    have validTarget : k.isValidChar := by
      rcases ck with rfl | fold
      · exact c.valid
      · exact (folding.valid _ fold).2
    have validMember : m.isValidChar := by
      rcases mk with rfl | fold
      · exact validTarget
      · exact (folding.valid _ fold).1
    obtain ⟨e, rfl⟩ : ∃ e : Char, e.toNat = k := ⟨_, toNat_ofNat validTarget⟩
    obtain ⟨d, rfl⟩ : ∃ d : Char, d.toNat = m := ⟨_, toNat_ofNat validMember⟩
    exact ⟨d, member, e, ck.imp_left Char.toNat_inj.mp, mk.imp_left Char.toNat_inj.mp⟩
  · rintro ⟨d, member, e, ce, de⟩
    exact ⟨e.toNat, ⟨d.toNat, member, de.imp_left (congrArg Char.toNat)⟩,
      ce.imp_left (congrArg Char.toNat)⟩

/-! ### The two foldings -/

theorem isFolding_foldPairs : IsFolding foldPairs where
  increasing := by
    have chain : foldPairs.IsChain fun p q => p.1 ≤ q.1 := by decide +kernel
    exact chain.pairwise
  valid := by decide +kernel

theorem isFolding_asciiFoldPairs : IsFolding asciiFoldPairs where
  increasing := by
    have chain : asciiFoldPairs.IsChain fun p q => p.1 ≤ q.1 := by decide
    exact chain.pairwise
  valid := by decide

theorem has_closeCase (s : CharSet) (c : Char) :
    s.closeCase.has c = true ↔ ∃ d, s.has d = true ∧ SameCase foldPairs c d :=
  has_closeBy isFolding_foldPairs s c

theorem has_closeAsciiCase (s : CharSet) (c : Char) :
    s.closeAsciiCase.has c = true ↔ ∃ d, s.has d = true ∧ SameCase asciiFoldPairs c d :=
  has_closeBy isFolding_asciiFoldPairs s c

end LineGrammar.CharSet
