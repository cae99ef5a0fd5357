import LineGrammar.Pattern.Meaning
import LineGrammar.Proofs.Except
import LineGrammar.Proofs.Pattern.Case

/-! # What a character class matches

Whether a character is matched by an item of a class, told without sets: a range matches what lies
between its ends, a negated class what its body does not match, and so on
(`ClassItem.Matches`).  Where case is ignored, a class also matches what differs in case only from
what its body matches (`Options.Closed`).

The members that are worked out for a class are the characters that it matches
(`ClassItem.has_members`). -/

namespace LineGrammar.Written

/-! ### Case and negation -/

namespace Options

variable (o : Options)

/-- Two characters are not told apart: they are the same, or differ in case only where case is
ignored. -/
def Alike (c d : Char) : Prop :=
  if o.ignoreCase then
    CharSet.SameCase (if o.unicode then CharSet.foldPairs else CharSet.asciiFoldPairs) c d
  else c = d

/-- The character is not told apart from one for which `p` holds. -/
def Closed (p : Char → Prop) (c : Char) : Prop := ∃ d, p d ∧ o.Alike c d

theorem has_closeCase (s : CharSet) (c : Char) :
    (o.closeCase s).has c = true ↔ o.Closed (fun d => s.has d = true) c := by
  unfold closeCase Closed Alike
  by_cases folds : o.ignoreCase
  · by_cases unicode : o.unicode
    · simp only [folds, unicode, if_true]
      exact CharSet.has_closeCase s c
    · simp only [folds, unicode, if_true]
      exact CharSet.has_closeAsciiCase s c
  · simp only [folds]
    exact ⟨fun h => ⟨c, h, rfl⟩, fun ⟨_, h, same⟩ => same ▸ h⟩

end Options

/-- `p` holds of a character or, negated, does not. -/
def Negated (negated : Bool) (p : Char → Prop) (c : Char) : Prop := if negated then ¬ p c else p c

theorem Options.has_negate {o : Options} {negated : Bool} {s t : CharSet} {p : Char → Prop}
    (h : o.negate negated s = .ok t) (hs : ∀ c, s.has c = true ↔ p c) (c : Char) :
    t.has c = true ↔ Negated negated p c := by
  unfold negate at h
  unfold Negated
  cases negated with
  | false =>
      obtain rfl := Except.ok.inj h
      exact hs c
  | true =>
      cases unicode : o.unicode with
      | false =>
          rw [unicode] at h
          exact (nomatch h)
      | true =>
          rw [unicode] at h
          obtain rfl := Except.ok.inj h
          exact (CharSet.has_complement s c).trans (not_congr (hs c))

/-- A negated class that is closed under case first. -/
theorem Options.has_negate_closeCase {o : Options} {negated : Bool} {s t : CharSet}
    {p : Char → Prop} (h : o.negate negated (o.closeCase s) = .ok t)
    (hs : ∀ c, s.has c = true ↔ p c) (c : Char) :
    t.has c = true ↔ Negated negated (o.Closed p) c := by
  refine has_negate h (fun d => ?_) c
  rw [o.has_closeCase]
  simp only [Closed, hs]

theorem Options.eq_of_classLiteral {o : Options} {l : Literal} {c : Char}
    (h : o.classLiteral l = .ok c) : c = l.char := by
  unfold classLiteral at h
  split at h
  · exact (Except.ok.inj h).symm
  · split at h <;> exact (nomatch h)

/-- An operation on what two classes match. -/
def SetOperation.Holds : SetOperation → Prop → Prop → Prop
  | intersection, p, q => p ∧ q
  | difference, p, q => p ∧ ¬ q
  | symmetricDifference, p, q => p ∧ ¬ q ∨ q ∧ ¬ p

theorem SetOperation.has_apply (op : SetOperation) (s t : CharSet) (c : Char) :
    (op.apply s t).has c = true ↔ op.Holds (s.has c = true) (t.has c = true) := by
  cases op with
  | intersection => exact CharSet.has_intersect s t c
  | difference => exact CharSet.has_difference s t c
  | symmetricDifference => exact CharSet.has_symmetricDifference s t c

/-- The character has the property. -/
def PropertyQuery.Holds (q : PropertyQuery) (c : Char) : Prop :=
  ∃ s, q.members = .ok s ∧ s.has c = true

def Shorthand.Holds (o : Options) (s : Shorthand) (c : Char) : Prop :=
  (s.members o.unicode).has c = true

mutual

/-- The character is matched by an item of a class. -/
def ClassItem.Matches (o : Options) : ClassItem → Char → Prop
  | literal l, c => c = l.char
  | range first last, c => first.char ≤ c ∧ c ≤ last.char
  | ascii k negated, c => Negated negated (o.Closed fun d => k.members.has d = true) c
  | shorthand s negated, c => Negated negated (s.Holds o) c
  | property query negated, c => Negated negated (o.Closed query.Holds) c
  | bracketed negated body, c => Negated negated (o.Closed (body.Matches o)) c
  | union items, c => ClassItem.AnyMatches o items c
  | operation op left right, c =>
    op.Holds (o.Closed (left.Matches o) c) (o.Closed (right.Matches o) c)

/-- The character is matched by one of several items. -/
def ClassItem.AnyMatches (o : Options) : List ClassItem → Char → Prop
  | [], _ => False
  | i :: is, c => i.Matches o c ∨ ClassItem.AnyMatches o is c

end

theorem Options.has_propertySet {o : Options} {q : PropertyQuery} {negated : Bool} {t : CharSet}
    (h : o.propertySet q negated = .ok t) (c : Char) :
    t.has c = true ↔ Negated negated (o.Closed q.Holds) c := by
  unfold propertySet at h
  dsimp only at h
  split at h
  · exact (nomatch h)
  · obtain ⟨s, members, h⟩ := bind_eq_ok_iff.mp h
    refine has_negate_closeCase h (fun d => ?_) c
    unfold PropertyQuery.Holds
    rw [members]
    exact ⟨fun hd => ⟨s, rfl, hd⟩, fun ⟨_, same, hd⟩ => Except.ok.inj same ▸ hd⟩

mutual

/-- The members of an item are the characters that it matches. -/
theorem ClassItem.has_members {o : Options} (item : ClassItem) {s : CharSet}
    (h : item.members o = .ok s) (c : Char) : s.has c = true ↔ item.Matches o c := by
  unfold members at h
  unfold Matches
  cases item with
  | literal l =>
      obtain ⟨d, hd, h⟩ := bind_eq_ok_iff.mp h
      obtain rfl := Except.ok.inj h
      rw [CharSet.has_single, Options.eq_of_classLiteral hd]
  | range first last =>
      obtain ⟨d, hd, h⟩ := bind_eq_ok_iff.mp h
      obtain ⟨e, he, h⟩ := bind_eq_ok_iff.mp h
      obtain rfl := Except.ok.inj h
      rw [CharSet.has_interval, Options.eq_of_classLiteral hd, Options.eq_of_classLiteral he]
  | ascii k negated => exact Options.has_negate_closeCase h (fun _ => Iff.rfl) c
  | shorthand s negated => exact Options.has_negate h (fun _ => Iff.rfl) c
  | property query negated => exact Options.has_propertySet h c
  | bracketed negated body =>
      obtain ⟨t, ht, h⟩ := bind_eq_ok_iff.mp h
      exact Options.has_negate_closeCase h (fun d => body.has_members ht d) c
  | union items =>
      obtain ⟨sets, hsets, h⟩ := bind_eq_ok_iff.mp h
      obtain rfl := Except.ok.inj h
      rw [CharSet.has_unions]
      exact ClassItem.has_membersOfAll items hsets c
  | operation op left right =>
      obtain ⟨t, ht, h⟩ := bind_eq_ok_iff.mp h
      obtain ⟨u, hu, h⟩ := bind_eq_ok_iff.mp h
      obtain rfl := Except.ok.inj h
      rw [op.has_apply, o.has_closeCase, o.has_closeCase]
      simp only [Options.Closed, left.has_members ht, right.has_members hu]

theorem ClassItem.has_membersOfAll {o : Options} (items : List ClassItem) {sets : List CharSet}
    (h : ClassItem.membersOfAll o items = .ok sets) (c : Char) :
    (∃ s ∈ sets, s.has c = true) ↔ ClassItem.AnyMatches o items c := by
  unfold membersOfAll at h
  unfold AnyMatches
  cases items with
  | nil =>
      obtain rfl := Except.ok.inj h
      simp
  | cons item items =>
      obtain ⟨s, hs, h⟩ := bind_eq_ok_iff.mp h
      obtain ⟨t, ht, h⟩ := bind_eq_ok_iff.mp h
      obtain rfl := Except.ok.inj h
      change _ ↔ item.Matches o c ∨ ClassItem.AnyMatches o items c
      rw [← item.has_members hs, ← ClassItem.has_membersOfAll items ht]
      simp only [List.mem_cons, exists_eq_or_imp]

end

end LineGrammar.Written
