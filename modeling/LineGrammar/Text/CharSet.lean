import LineGrammar.Text.Basic

/-! # Sets of characters

A set of characters is a list of intervals of code points, both ends included.  The intervals may
overlap and stand in any order; put in order (`ordered`), they are disjoint, two sets with the same
members are equal, the size of a set is the sum of the lengths, and the members can be counted off
(`nth?`).  The operations are made of the complement, which is the gaps between the intervals, and
of the union: a character is in both of two sets if it is not in the union of their complements.
`all` holds the code points of all characters: the surrogates are left out.

What an operation stands for is told by its members (`has_complement`, `has_unions`,
`has_intersect`, `has_difference`, `has_symmetricDifference`, `has_interval`), whatever the
intervals are. -/

namespace LineGrammar

/-- A set of characters, as intervals of code points with both ends included. -/
abbrev CharSet := List (Nat × Nat)

namespace CharSet

/-- Whether the code point `n` lies in one of the intervals. -/
def covers (s : CharSet) (n : Nat) : Bool := s.any fun (first, last) => first ≤ n && n ≤ last

def has (s : CharSet) (c : Char) : Bool := s.covers c.toNat

def all : CharSet := [(0, 0xd7ff), (0xe000, 0x10ffff)]

/-- The code points that no character has, up to the last one of a character. -/
def surrogates : Nat × Nat := (0xd800, 0xdfff)

/-- An interval and, in the order of their starts, those after it.  Intervals that touch or overlap
become one. -/
def joinFrom (a b : Nat) : CharSet → CharSet
  | [] => [(a, b)]
  | (c, d) :: s => if c ≤ b + 1 then joinFrom a (max b d) s else (a, b) :: joinFrom c d s

/-- The intervals that are not empty, in the order of their starts. -/
def byStart (s : CharSet) : CharSet :=
  (s.filter fun i => Nat.ble i.1 i.2).mergeSort fun i j => Nat.ble i.1 j.1

/-- The intervals in increasing order, with a gap between each of them and the next. -/
def ordered (s : CharSet) : CharSet :=
  match s.byStart with
  | [] => []
  | (a, b) :: s => joinFrom a b s

def unions (sets : List CharSet) : CharSet := ordered sets.flatten

/-- The gaps between the intervals of an ordered set, from the code point `start` to the last one of
a character. -/
def gapsFrom (start : Nat) : CharSet → CharSet
  | [] => if start ≤ 0x10ffff then [(start, 0x10ffff)] else []
  | (a, b) :: s =>
    if start < a then (start, min (a - 1) 0x10ffff) :: gapsFrom (b + 1) s else gapsFrom (b + 1) s

def complement (s : CharSet) : CharSet := gapsFrom 0 (ordered (surrogates :: s))

def intersect (s t : CharSet) : CharSet := complement (s.complement ++ t.complement)

def difference (s t : CharSet) : CharSet := complement (s.complement ++ t)

def symmetricDifference (s t : CharSet) : CharSet := unions [difference s t, difference t s]

def interval (first last : Char) : CharSet := difference [(first.toNat, last.toNat)] [surrogates]

def single (c : Char) : CharSet := [(c.toNat, c.toNat)]

/-- Every second code point of some intervals, from the first one of each on. -/
def alternating (runs : List (Nat × Nat)) : CharSet :=
  runs.flatMap fun (first, last) =>
    (List.range ((last - first) / 2 + 1)).map fun i => (first + 2 * i, first + 2 * i)

def size : CharSet → Nat
  | [] => 0
  | (a, b) :: s => b + 1 - a + size s

/-- The code point with the number `i`, counted from 0 through the intervals. -/
def nth? : CharSet → Nat → Option Nat
  | [], _ => none
  | (a, b) :: s, i => if i < b + 1 - a then some (a + i) else nth? s (i - (b + 1 - a))

/-! ### Members -/

theorem covers_iff {s : CharSet} {n : Nat} :
    s.covers n = true ↔ ∃ i ∈ s, i.1 ≤ n ∧ n ≤ i.2 := by
  unfold covers
  simp only [List.any_eq_true, Bool.and_eq_true, decide_eq_true_eq]

@[simp] theorem covers_nil (n : Nat) : covers [] n = false := rfl

@[simp] theorem covers_cons (a b : Nat) (s : CharSet) (n : Nat) :
    covers ((a, b) :: s) n = true ↔ a ≤ n ∧ n ≤ b ∨ s.covers n = true := by
  simp [covers]

@[simp] theorem covers_append (s t : CharSet) (n : Nat) :
    covers (s ++ t) n = true ↔ s.covers n = true ∨ t.covers n = true := by
  simp only [covers, List.any_append, Bool.or_eq_true]

theorem covers_flatten (sets : List CharSet) (n : Nat) :
    covers sets.flatten n = true ↔ ∃ s ∈ sets, s.covers n = true := by
  simp only [covers, List.any_flatten]
  exact List.any_eq_true

theorem toNat_ofNat {n : Nat} (h : n.isValidChar) : (Char.ofNat n).toNat = n := by
  unfold Char.ofNat
  rw [dif_pos h]
  rfl

/-! ### Ordered sets -/

/-- The intervals are not empty, start at `start` at the earliest, and have a gap between each of
them and the next. -/
def IsOrderedFrom (start : Nat) : CharSet → Prop
  | [] => True
  | (a, b) :: s => start ≤ a ∧ a ≤ b ∧ IsOrderedFrom (b + 2) s

theorem IsOrderedFrom.mono {s : CharSet} {start start' : Nat} (h : start' ≤ start)
    (hs : IsOrderedFrom start s) : IsOrderedFrom start' s := by
  cases s with
  | nil => trivial
  | cons i s => exact ⟨Nat.le_trans h hs.1, hs.2⟩

theorem IsOrderedFrom.le_of_covers {s : CharSet} {start n : Nat} (hs : IsOrderedFrom start s)
    (h : s.covers n = true) : start ≤ n := by
  induction s generalizing start with
  | nil => cases h
  | cons i s ih =>
      obtain ⟨first, proper, later⟩ := hs
      rcases (covers_cons _ _ _ _).mp h with here | there
      · omega
      · have := ih later there
        omega

/-- Joining keeps the members and leaves gaps, where the intervals stand in the order of their
starts. -/
theorem joinFrom_spec {a b : Nat} {s : CharSet} (ab : a ≤ b) (proper : ∀ i ∈ s, i.1 ≤ i.2)
    (sorted : List.Pairwise (fun i j => i.1 ≤ j.1) ((a, b) :: s)) :
    IsOrderedFrom a (joinFrom a b s) ∧
      ∀ n, (joinFrom a b s).covers n = true ↔ covers ((a, b) :: s) n = true := by
  induction s generalizing a b with
  | nil => exact ⟨⟨Nat.le_refl a, ab, trivial⟩, fun n => Iff.rfl⟩
  | cons i s ih =>
      obtain ⟨c, d⟩ := i
      have cd : c ≤ d := proper (c, d) List.mem_cons_self
      have proper' : ∀ i ∈ s, i.1 ≤ i.2 := fun i hi => proper i (List.mem_cons_of_mem _ hi)
      have ⟨afterFirst, sorted'⟩ := List.pairwise_cons.mp sorted
      have ac : a ≤ c := afterFirst (c, d) List.mem_cons_self
      unfold joinFrom
      split
      · have joined : List.Pairwise (fun i j => i.1 ≤ j.1) ((a, max b d) :: s) :=
          List.pairwise_cons.mpr
            ⟨fun i hi => afterFirst i (List.mem_cons_of_mem _ hi),
              (List.pairwise_cons.mp sorted').2⟩
        obtain ⟨spaced, same⟩ := ih (by omega) proper' joined
        refine ⟨spaced, fun n => ?_⟩
        rw [same, covers_cons, covers_cons, covers_cons, ← or_assoc]
        refine or_congr_left ?_
        omega
      · obtain ⟨spaced, same⟩ := ih cd proper' sorted'
        refine ⟨⟨Nat.le_refl a, ab, spaced.mono (by omega)⟩, fun n => ?_⟩
        rw [covers_cons, same, covers_cons a b]

theorem mem_byStart {s : CharSet} {i : Nat × Nat} : i ∈ s.byStart ↔ i ∈ s ∧ i.1 ≤ i.2 := by
  unfold byStart
  rw [List.mem_mergeSort, List.mem_filter, Nat.ble_eq]

theorem covers_byStart (s : CharSet) (n : Nat) : s.byStart.covers n = true ↔ s.covers n = true := by
  simp only [covers_iff, mem_byStart]
  constructor
  · rintro ⟨i, ⟨hi, -⟩, hn⟩
    exact ⟨i, hi, hn⟩
  · rintro ⟨i, hi, hn⟩
    exact ⟨i, ⟨hi, Nat.le_trans hn.1 hn.2⟩, hn⟩

theorem pairwise_mergeSort_fst (s : List (Nat × Nat)) :
    (s.mergeSort fun i j => Nat.ble i.1 j.1).Pairwise fun i j => i.1 ≤ j.1 := by
  have trans (i j k : Nat × Nat) (hij : Nat.ble i.1 j.1 = true) (hjk : Nat.ble j.1 k.1 = true) :
      Nat.ble i.1 k.1 = true :=
    Nat.ble_eq.mpr (Nat.le_trans (Nat.ble_eq.mp hij) (Nat.ble_eq.mp hjk))
  have total (i j : Nat × Nat) : (Nat.ble i.1 j.1 || Nat.ble j.1 i.1) = true := by
    simpa only [Bool.or_eq_true, Nat.ble_eq] using Nat.le_total i.1 j.1
  exact (List.pairwise_mergeSort trans total s).imp Nat.ble_eq.mp

theorem ordered_spec (s : CharSet) :
    IsOrderedFrom 0 s.ordered ∧ ∀ n, s.ordered.covers n = true ↔ s.covers n = true := by
  have same := covers_byStart s
  have sorted : s.byStart.Pairwise fun i j => i.1 ≤ j.1 := pairwise_mergeSort_fst _
  have proper : ∀ i ∈ s.byStart, i.1 ≤ i.2 := fun i hi => (mem_byStart.mp hi).2
  unfold ordered
  cases h : s.byStart with
  | nil => exact ⟨trivial, fun n => by rw [← same, h]⟩
  | cons i t =>
      obtain ⟨a, b⟩ := i
      rw [h] at same sorted proper
      obtain ⟨spaced, joined⟩ := joinFrom_spec (proper (a, b) List.mem_cons_self)
        (fun i hi => proper i (List.mem_cons_of_mem _ hi)) sorted
      exact ⟨spaced.mono (Nat.zero_le a), fun n => (joined n).trans (same n)⟩

theorem isOrderedFrom_ordered (s : CharSet) : IsOrderedFrom 0 s.ordered := (ordered_spec s).1

@[simp] theorem covers_ordered (s : CharSet) (n : Nat) :
    s.ordered.covers n = true ↔ s.covers n = true := (ordered_spec s).2 n

/-! ### Operations -/

theorem covers_gapsFrom {s : CharSet} {start : Nat} (hs : IsOrderedFrom start s) (n : Nat) :
    (gapsFrom start s).covers n = true ↔ start ≤ n ∧ n ≤ 0x10ffff ∧ ¬ s.covers n = true := by
  induction s generalizing start with
  | nil =>
      unfold gapsFrom
      split
      · simp
      · simp only [covers_nil]
        grind
  | cons i s ih =>
      obtain ⟨a, b⟩ := i
      obtain ⟨first, proper, later⟩ := hs
      have rest := ih (later.mono (Nat.le_succ (b + 1)))
      have beyond : covers s n = true → b + 2 ≤ n := later.le_of_covers
      unfold gapsFrom
      split
      · rw [covers_cons, rest, covers_cons]
        grind
      · rw [rest, covers_cons]
        grind

theorem covers_complement (s : CharSet) (n : Nat) :
    s.complement.covers n = true ↔ n.isValidChar ∧ ¬ s.covers n = true := by
  unfold complement
  rw [covers_gapsFrom (isOrderedFrom_ordered _), covers_ordered, surrogates, covers_cons,
    Nat.isValidChar]
  grind

theorem has_complement (s : CharSet) (c : Char) : s.complement.has c = true ↔ ¬ s.has c = true := by
  unfold has
  rw [covers_complement]
  exact and_iff_right c.valid

theorem has_unions (sets : List CharSet) (c : Char) :
    (unions sets).has c = true ↔ ∃ s ∈ sets, s.has c = true := by
  unfold has unions
  rw [covers_ordered, covers_flatten]

theorem has_append (s t : CharSet) (c : Char) :
    has (s ++ t) c = true ↔ s.has c = true ∨ t.has c = true := covers_append s t c.toNat

theorem has_intersect (s t : CharSet) (c : Char) :
    (s.intersect t).has c = true ↔ s.has c = true ∧ t.has c = true := by
  unfold intersect
  rw [has_complement, has_append, has_complement, has_complement]
  cases s.has c <;> cases t.has c <;> decide

theorem has_difference (s t : CharSet) (c : Char) :
    (s.difference t).has c = true ↔ s.has c = true ∧ ¬ t.has c = true := by
  unfold difference
  rw [has_complement, has_append, has_complement]
  cases s.has c <;> cases t.has c <;> decide

theorem has_symmetricDifference (s t : CharSet) (c : Char) :
    (s.symmetricDifference t).has c = true ↔
      s.has c = true ∧ ¬ t.has c = true ∨ t.has c = true ∧ ¬ s.has c = true := by
  unfold symmetricDifference
  rw [has_unions]
  simp only [List.mem_cons, List.not_mem_nil, or_false, exists_eq_or_imp, exists_eq_left,
    has_difference]

theorem has_single (c d : Char) : (single c).has d = true ↔ d = c := by
  unfold single has
  rw [covers_cons, covers_nil, ← Nat.le_antisymm_iff]
  simp [eq_comm, Char.toNat_inj]

theorem has_interval (first last c : Char) :
    (interval first last).has c = true ↔ first ≤ c ∧ c ≤ last := by
  have valid : c.toNat < 0xd800 ∨ 0xdfff < c.toNat ∧ c.toNat < 0x110000 := c.valid
  unfold interval
  rw [has_difference, Char.le_def, Char.le_def, UInt32.le_iff_toNat_le, UInt32.le_iff_toNat_le]
  unfold has surrogates
  simp only [covers_cons, covers_nil, Char.toNat_val, Bool.false_eq_true, or_false]
  omega

theorem has_all (c : Char) : all.has c = true := by
  have valid : c.toNat < 0xd800 ∨ 0xdfff < c.toNat ∧ c.toNat < 0x110000 := c.valid
  unfold all has
  simp only [covers_cons, covers_nil, Bool.false_eq_true, or_false]
  omega

/-! ### Counting -/

theorem covers_of_nth? {s : CharSet} {i n : Nat} (h : s.nth? i = some n) : s.covers n = true := by
  induction s generalizing i with
  | nil => cases h
  | cons j s ih =>
      obtain ⟨a, b⟩ := j
      unfold nth? at h
      rw [covers_cons]
      split at h
      · obtain rfl := Option.some.inj h
        exact .inl (by omega)
      · exact .inr (ih h)

theorem exists_nth?_eq {s : CharSet} {i : Nat} (h : i < s.size) : ∃ n, s.nth? i = some n := by
  induction s generalizing i with
  | nil => cases h
  | cons j s ih =>
      obtain ⟨a, b⟩ := j
      unfold nth?
      split
      · exact ⟨_, rfl⟩
      · unfold size at h
        exact ih (by omega)

theorem size_eq_zero_iff {s : CharSet} : s.size = 0 ↔ ∀ n, ¬ s.covers n = true := by
  induction s with
  | nil => simp [size]
  | cons j s ih =>
      obtain ⟨a, b⟩ := j
      unfold size
      rw [Nat.add_eq_zero_iff, ih]
      constructor
      · rintro ⟨empty, rest⟩ n
        rw [covers_cons]
        rintro (here | there)
        · omega
        · exact rest n there
      · intro none
        refine ⟨?_, fun n hn => none n ((covers_cons _ _ _ _).mpr (.inr hn))⟩
        have := none a
        rw [covers_cons] at this
        omega

end CharSet

/-- A set of code points that are all those of characters. -/
structure CharClass where
  set : CharSet
  isValid : ∀ n, set.covers n = true → n.isValidChar
  deriving DecidableEq, Repr

/-- The character of a code point of a class is a member. -/
theorem CharClass.has_ofNat {members : CharClass} {n : Nat} (h : members.set.covers n = true) :
    members.set.has (Char.ofNat n) = true := by
  unfold CharSet.has
  rwa [CharSet.toNat_ofNat (members.isValid n h)]

/-- The characters of a set. -/
def CharSet.characters (s : CharSet) : CharClass where
  set := s.complement.complement
  isValid n h := ((covers_complement _ n).mp h).1

theorem CharSet.has_characters (s : CharSet) (c : Char) :
    s.characters.set.has c = true ↔ s.has c = true := by
  unfold characters
  rw [has_complement, has_complement]
  exact Classical.not_not

end LineGrammar
