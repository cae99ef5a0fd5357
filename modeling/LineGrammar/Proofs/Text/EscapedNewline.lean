import LineGrammar.Alternative
import LineGrammar.Proofs.Text.Ends
import Mathlib.Data.List.Infix

/-! # Newlines written with a backslash

A backslash followed by `n` stands for a newline where symbols are spaced.  Two such pairs have no
character in common, and putting a newline in the place of one makes no other.  So a text is cut at
them into pieces in one way only, and between newlines these pieces make up what the text stands for
(`unescapeNewlines_eq_iff`).  Nothing is left to be replaced then (`not_infix_unescapeNewlines`). -/

namespace LineGrammar

def escapedNewline : Text := ['\\', 'n']

/-- That `u` has a newline wherever `t` has a backslash followed by `n`, and is the same
elsewhere. -/
def Unescapes (t u : Text) : Prop :=
  ∃ pieces : List Text, pieces ≠ [] ∧ (∀ p ∈ pieces, ¬ escapedNewline <:+: p) ∧
    t = escapedNewline.intercalate pieces ∧ u = ['\n'].intercalate pieces

theorem escapedNewline_prefix_cons_iff (c : Char) (t : Text) :
    escapedNewline <+: c :: t ↔ c = '\\' ∧ t.head? = some 'n' := Text.pair_prefix_cons_iff

theorem unescapeNewlines_cons {c : Char} {t : Text} (h : ¬ escapedNewline <+: c :: t) :
    unescapeNewlines (c :: t) = c :: unescapeNewlines t := by
  cases t with
  | nil => rfl
  | cons d t =>
      rw [escapedNewline_prefix_cons_iff, List.head?_cons, Option.some.injEq] at h
      rw [unescapeNewlines, if_neg h]

/-- Texts one after another are unescaped one after another, unless the first one ends in the
backslash of an `n` at the start of the second one. -/
theorem unescapeNewlines_append {t u : Text} (h : t.getLast? = some '\\' → u.head? ≠ some 'n') :
    unescapeNewlines (t ++ u) = unescapeNewlines t ++ unescapeNewlines u := by
  fun_induction unescapeNewlines t with
  | case1 => rfl
  | case2 c =>
      refine unescapeNewlines_cons ?_
      rw [escapedNewline_prefix_cons_iff]
      rintro ⟨rfl, first⟩
      exact h rfl first
  | case3 c d t hc ih =>
      obtain ⟨rfl, rfl⟩ := hc
      have later : t.getLast? = some '\\' → u.head? ≠ some 'n' := fun last =>
        h (by simp [List.getLast?_cons, last])
      exact congrArg ('\n' :: ·) (ih later)
  | case4 c d t hc ih =>
      have here : ¬ escapedNewline <+: c :: (d :: t ++ u) := by
        rwa [escapedNewline_prefix_cons_iff, List.cons_append, List.head?_cons,
          Option.some.injEq]
      rw [List.cons_append, unescapeNewlines_cons here, ih h]
      rfl

/-- A separator that neither starts with `n` nor ends in a backslash keeps the pieces apart. -/
theorem unescapeNewlines_intercalate {separator : Text} (hs : separator ≠ [])
    (first : separator.head? ≠ some 'n') (last : separator.getLast? ≠ some '\\')
    (pieces : List Text) :
    unescapeNewlines (separator.intercalate pieces) =
      (unescapeNewlines separator).intercalate (pieces.map unescapeNewlines) := by
  induction pieces with
  | nil => rfl
  | cons piece pieces ih =>
      cases pieces with
      | nil => simp
      | cons next pieces =>
          have behind : (piece ++ separator).getLast? ≠ some '\\' := by
            rwa [List.getLast?_append_of_ne_nil _ hs]
          rw [List.intercalate_cons_cons, unescapeNewlines_append fun h => absurd h behind,
            unescapeNewlines_append fun _ => first, ih]
          exact List.intercalate_cons_cons.symm

/-! ### What is replaced -/

theorem unescapeNewlines_eq_self {t : Text} (h : ¬ escapedNewline <:+: t) :
    unescapeNewlines t = t := by
  induction t with
  | nil => rfl
  | cons c t ih =>
      rw [List.infix_cons_iff, not_or] at h
      rw [unescapeNewlines_cons h.1, ih h.2]

theorem head?_unescapeNewlines {t : Text} (h : (unescapeNewlines t).head? = some 'n') :
    t.head? = some 'n' := by
  fun_cases unescapeNewlines t with
  | case1 => exact h
  | case2 c => exact h
  | case3 c d t hc => simp [unescapeNewlines, hc] at h
  | case4 c d t hc => simpa [unescapeNewlines, hc] using h

/-- Nothing is left to be replaced. -/
theorem not_infix_unescapeNewlines (t : Text) : ¬ escapedNewline <:+: unescapeNewlines t := by
  fun_induction unescapeNewlines t with
  | case1 => simp [escapedNewline]
  | case2 c => simp [escapedNewline, List.infix_cons_iff]
  | case3 c d t hc ih =>
      rw [List.infix_cons_iff, escapedNewline_prefix_cons_iff, not_or]
      exact ⟨fun h => absurd h.1 (by decide), ih⟩
  | case4 c d t hc ih =>
      rw [List.infix_cons_iff, escapedNewline_prefix_cons_iff, not_or]
      exact ⟨fun h => hc ⟨h.1, by simpa using head?_unescapeNewlines h.2⟩, ih⟩

theorem unescapeNewlines_unescapeNewlines (t : Text) :
    unescapeNewlines (unescapeNewlines t) = unescapeNewlines t :=
  unescapeNewlines_eq_self (not_infix_unescapeNewlines t)

/-- Every text consists of pieces without such a pair, with the pairs between them. -/
theorem exists_eq_intercalate (t : Text) :
    ∃ pieces : List Text, pieces ≠ [] ∧ (∀ p ∈ pieces, ¬ escapedNewline <:+: p) ∧
      t = escapedNewline.intercalate pieces := by
  fun_induction unescapeNewlines t with
  | case1 => exact ⟨[[]], by simp, by simp [escapedNewline], rfl⟩
  | case2 c => exact ⟨[[c]], by simp, by simp [escapedNewline, List.infix_cons_iff], by simp⟩
  | case3 c d t hc ih =>
      obtain ⟨rfl, rfl⟩ := hc
      obtain ⟨pieces, some, whole, rfl⟩ := ih
      refine ⟨[] :: pieces, by simp, ?_, ?_⟩
      · exact List.forall_mem_cons.mpr ⟨by simp [escapedNewline], whole⟩
      · rw [List.intercalate_cons_of_ne_nil some]
        rfl
  | case4 c d t hc ih =>
      obtain ⟨pieces, some, whole, ht⟩ := ih
      obtain ⟨piece, pieces, rfl⟩ := List.exists_cons_of_ne_nil some
      have whole' := List.forall_mem_cons.mp whole
      have joined : escapedNewline.intercalate ((c :: piece) :: pieces) =
          c :: escapedNewline.intercalate (piece :: pieces) := List.intercalate_cons_cons_left
      refine ⟨(c :: piece) :: pieces, by simp, ?_, by rw [joined, ← ht]⟩
      refine List.forall_mem_cons.mpr ⟨?_, whole'.2⟩
      rw [List.infix_cons_iff, escapedNewline_prefix_cons_iff, not_or]
      refine ⟨fun h => hc ⟨h.1, ?_⟩, whole'.1⟩
      -- The second character of the text is the first one of the piece.
      obtain ⟨rest, hrest⟩ := List.head?_eq_some_iff.mp h.2
      rw [hrest, List.intercalate_cons_cons_left, List.cons.injEq] at ht
      exact ht.1

/-- Unescaping puts a newline in the place of each backslash followed by `n`, and changes nothing
else. -/
theorem unescapeNewlines_eq_iff {t u : Text} : unescapeNewlines t = u ↔ Unescapes t u := by
  have replaced : ∀ pieces : List Text, (∀ p ∈ pieces, ¬ escapedNewline <:+: p) →
      unescapeNewlines (escapedNewline.intercalate pieces) = ['\n'].intercalate pieces := by
    intro pieces whole
    have same : pieces.map unescapeNewlines = pieces :=
      (List.map_congr_left fun p hp => unescapeNewlines_eq_self (whole p hp)).trans
        (List.map_id' pieces)
    rw [unescapeNewlines_intercalate (by decide) (by decide) (by decide), same]
    rfl
  constructor
  · rintro rfl
    obtain ⟨pieces, some, whole, rfl⟩ := exists_eq_intercalate t
    exact ⟨pieces, some, whole, rfl, replaced pieces whole⟩
  · rintro ⟨pieces, -, whole, rfl, rfl⟩
    exact replaced pieces whole

end LineGrammar
