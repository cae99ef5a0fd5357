import LineGrammar.Proofs.Pattern.Language
import LineGrammar.Proofs.Pattern.Matching

/-! # The language of a written pattern

The strings that a pattern stands for as it is written, with the flags that hold at each place
(`Tree.language`).  Nothing is made plain here: a class stands for the characters that it matches, a
sequence for the product of languages, a choice for their sum.

The pattern that a tree is turned into has the language of the tree (`Tree.language_meaning`). -/

namespace LineGrammar.Written

mutual

/-- The options after a written pattern. -/
def Tree.after (o : Options) : Tree → Options
  | flags fs => o.set fs
  | repeated _ _ body => body.after o
  | sequence parts => Tree.afterAll o parts
  | choice branches => Tree.afterAll o branches
  | _ => o

def Tree.afterAll (o : Options) : List Tree → Options
  | [] => o
  | t :: ts => Tree.afterAll (t.after o) ts

end

/-- The dot stands for any character but those that end a line, unless it stands for all. -/
def Options.DotHolds (o : Options) (c : Char) : Prop :=
  o.dotAll = true ∨ c ≠ '\n' ∧ (o.crlf = true → c ≠ '\r')

mutual

/-- The strings that a written pattern stands for.  What is repeated without an upper bound comes at
most `extra` times more than it has to, if that is given. -/
def Tree.language (extra : Option Nat) (o : Options) : Tree → Language Char
  | empty => 1
  | flags _ => 1
  | literal l => oneOf (o.Closed fun c => c = l.char)
  | dot => oneOf o.DotHolds
  | anchor _ => 0
  | shorthand s negated => oneOf (Negated negated (s.Holds o))
  | property query negated => oneOf (Negated negated (o.Closed query.Holds))
  | bracketed negated body => oneOf (Negated negated (o.Closed (body.Matches o)))
  | repeated bounds _ body => bounds.language extra (body.language extra o)
  | group _ body => body.language extra o
  | scope fs body => body.language extra (o.set fs)
  | sequence parts => (Tree.languages extra o parts).prod
  | choice branches => (Tree.languages extra o branches).sum

def Tree.languages (extra : Option Nat) (o : Options) : List Tree → List (Language Char)
  | [] => []
  | t :: ts => t.language extra o :: Tree.languages extra (t.after o) ts

end

variable {extra : Option Nat} {o : Options} {p : Pattern}

theorem Options.language_literal {l : Literal} (h : o.literal l = .ok p) :
    p.language extra = oneOf (o.Closed fun c => c = l.char) := by
  unfold literal at h
  split at h
  · cases h
  · obtain rfl := Except.ok.inj h
    rw [Pattern.language_ofSet]
    refine oneOf_congr fun c => ?_
    rw [o.has_closeCase]
    simp only [Closed, CharSet.has_single]

theorem Options.language_dot (h : o.dot = .ok p) : p.language extra = oneOf o.DotHolds := by
  have other (c d : Char) (n : Nat) (hn : d.toNat = n) : c.toNat = n ↔ c = d := by
    rw [← hn, Char.toNat_inj]
  have newline (c : Char) : CharSet.has [(0x0a, 0x0a)] c = true ↔ c = '\n' := by
    simp only [CharSet.has, CharSet.covers_cons, CharSet.covers_nil, ← Nat.le_antisymm_iff,
      Bool.false_eq_true, or_false, eq_comm (a := 0x0a), other c '\n' 0x0a rfl]
  have either (c : Char) :
      CharSet.has [(0x0a, 0x0a), (0x0d, 0x0d)] c = true ↔ c = '\n' ∨ c = '\r' := by
    simp only [CharSet.has, CharSet.covers_cons, CharSet.covers_nil, ← Nat.le_antisymm_iff,
      Bool.false_eq_true, or_false, eq_comm (a := 0x0a), eq_comm (a := 0x0d),
      other c '\n' 0x0a rfl, other c '\r' 0x0d rfl]
  unfold dot at h
  unfold DotHolds
  split at h
  · cases h
  · split at h
    · rename_i all
      obtain rfl := Except.ok.inj h
      rw [Pattern.language_ofSet]
      exact oneOf_congr fun c => iff_of_true (CharSet.has_all c) (.inl all)
    · rename_i notAll
      split at h
      · rename_i crlf
        obtain rfl := Except.ok.inj h
        rw [Pattern.language_ofSet]
        refine oneOf_congr fun c => ?_
        rw [CharSet.has_complement, either]
        simp [notAll, crlf]
      · rename_i plain
        obtain rfl := Except.ok.inj h
        rw [Pattern.language_ofSet]
        refine oneOf_congr fun c => ?_
        rw [CharSet.has_complement, newline]
        simp [notAll, plain]

theorem Options.language_ofSet {negated : Bool} {s : CharSet} {q : Char → Prop}
    (h : o.ofSet negated s = .ok p) (hs : ∀ c, s.has c = true ↔ q c) :
    p.language extra = oneOf (Negated negated q) := by
  obtain ⟨t, ht, h⟩ := bind_eq_ok_iff.mp h
  obtain rfl := Except.ok.inj h
  rw [Pattern.language_ofSet]
  exact oneOf_congr (has_negate ht hs)

/-! ### Trees -/

mutual

/-- The pattern that a tree is turned into stands for the strings of the tree. -/
theorem Tree.language_meaning (extra : Option Nat) {o o' : Options} (t : Tree) {p : Pattern}
    (h : t.meaning o = .ok (p, o')) : p.language extra = t.language extra o ∧ o' = t.after o := by
  unfold meaning at h
  unfold language after
  cases t with
  | empty =>
      obtain ⟨rfl, rfl⟩ := Prod.mk.inj (Except.ok.inj h)
      exact ⟨rfl, rfl⟩
  | flags fs =>
      obtain ⟨rfl, rfl⟩ := Prod.mk.inj (Except.ok.inj h)
      exact ⟨rfl, rfl⟩
  | literal l =>
      obtain ⟨q, hq, h⟩ := bind_eq_ok_iff.mp h
      obtain ⟨rfl, rfl⟩ := Prod.mk.inj (Except.ok.inj h)
      exact ⟨Options.language_literal hq, rfl⟩
  | dot =>
      obtain ⟨q, hq, h⟩ := bind_eq_ok_iff.mp h
      obtain ⟨rfl, rfl⟩ := Prod.mk.inj (Except.ok.inj h)
      exact ⟨Options.language_dot hq, rfl⟩
  | anchor m =>
      obtain ⟨rfl, rfl⟩ := Prod.mk.inj (Except.ok.inj h)
      exact ⟨rfl, rfl⟩
  | shorthand s negated =>
      obtain ⟨q, hq, h⟩ := bind_eq_ok_iff.mp h
      obtain ⟨rfl, rfl⟩ := Prod.mk.inj (Except.ok.inj h)
      exact ⟨Options.language_ofSet hq fun _ => Iff.rfl, rfl⟩
  | property query negated =>
      obtain ⟨s, hs, h⟩ := bind_eq_ok_iff.mp h
      obtain ⟨rfl, rfl⟩ := Prod.mk.inj (Except.ok.inj h)
      refine ⟨?_, rfl⟩
      rw [Pattern.language_ofSet]
      exact oneOf_congr (Options.has_propertySet hs)
  | bracketed negated body =>
      obtain ⟨s, hs, h⟩ := bind_eq_ok_iff.mp h
      obtain ⟨q, hq, h⟩ := bind_eq_ok_iff.mp h
      obtain ⟨rfl, rfl⟩ := Prod.mk.inj (Except.ok.inj h)
      refine ⟨Options.language_ofSet hq fun c => ?_, rfl⟩
      rw [o.has_closeCase]
      simp only [Options.Closed, body.has_members hs]
  | repeated bounds isLazy body =>
      obtain ⟨⟨q, o₁⟩, hq, h⟩ := bind_eq_ok_iff.mp h
      obtain ⟨rfl, rfl⟩ := Prod.mk.inj (Except.ok.inj h)
      obtain ⟨same, last⟩ := body.language_meaning extra hq
      rw [Pattern.language_repetition, same]
      exact ⟨rfl, last⟩
  | group number body =>
      obtain ⟨⟨q, o₁⟩, hq, h⟩ := bind_eq_ok_iff.mp h
      obtain ⟨rfl, rfl⟩ := Prod.mk.inj (Except.ok.inj h)
      exact ⟨(body.language_meaning extra hq).1, rfl⟩
  | scope fs body =>
      obtain ⟨⟨q, o₁⟩, hq, h⟩ := bind_eq_ok_iff.mp h
      obtain ⟨rfl, rfl⟩ := Prod.mk.inj (Except.ok.inj h)
      exact ⟨(body.language_meaning extra hq).1, rfl⟩
  | sequence parts =>
      obtain ⟨⟨qs, o₁⟩, hqs, h⟩ := bind_eq_ok_iff.mp h
      obtain ⟨rfl, rfl⟩ := Prod.mk.inj (Except.ok.inj h)
      obtain ⟨same, last⟩ := Tree.languages_meanings extra parts hqs
      rw [Pattern.language_sequence, same]
      exact ⟨rfl, last⟩
  | choice branches =>
      obtain ⟨⟨qs, o₁⟩, hqs, h⟩ := bind_eq_ok_iff.mp h
      obtain ⟨rfl, rfl⟩ := Prod.mk.inj (Except.ok.inj h)
      obtain ⟨same, last⟩ := Tree.languages_meanings extra branches hqs
      rw [Pattern.language_choice, same]
      exact ⟨rfl, last⟩

theorem Tree.languages_meanings (extra : Option Nat) {o o' : Options} (ts : List Tree)
    {ps : List Pattern} (h : Tree.meanings o ts = .ok (ps, o')) :
    ps.map (Pattern.language extra) = Tree.languages extra o ts ∧ o' = Tree.afterAll o ts := by
  unfold Tree.meanings at h
  unfold Tree.languages Tree.afterAll
  cases ts with
  | nil =>
      obtain ⟨rfl, rfl⟩ := Prod.mk.inj (Except.ok.inj h)
      exact ⟨rfl, rfl⟩
  | cons t ts =>
      obtain ⟨⟨q, o₁⟩, hq, h⟩ := bind_eq_ok_iff.mp h
      obtain ⟨⟨qs, o₂⟩, hqs, h⟩ := bind_eq_ok_iff.mp h
      obtain ⟨rfl, rfl⟩ := Prod.mk.inj (Except.ok.inj h)
      obtain ⟨same, rfl⟩ := t.language_meaning extra hq
      obtain ⟨sames, last⟩ := Tree.languages_meanings extra ts hqs
      rw [List.map_cons, same, sames]
      exact ⟨rfl, last⟩

end

end LineGrammar.Written
