import LineGrammar.Proofs.LineEnds
import Mathlib.Data.List.Infix

/-! # Where a line is cut

A line is cut at its first separator, the colon that is followed by a space
(`splitLabel_eq_some_iff`), and it is a rule if the text before that is not blank
(`parse?_eq_some_iff`).  From this follows what labels and tokens are made of: a label is trimmed
and has neither a newline nor a separator in it (`isLabel`), and no token has a space in it, or a
newline in front of its line ending (`not_mem_chomp`). -/

namespace LineGrammar

def separator : Text := [':', ' ']

theorem separator_prefix_cons_iff (c : Char) (t : Text) :
    separator <+: c :: t ↔ c = ':' ∧ t.head? = some ' ' := Text.pair_prefix_cons_iff

theorem splitLabel_cons {c : Char} {t : Text} (h : ¬ separator <+: c :: t) :
    splitLabel (c :: t) = (splitLabel t).map fun (before, after) => (c :: before, after) := by
  cases t with
  | nil => rfl
  | cons d t =>
      rw [separator_prefix_cons_iff, List.head?_cons, Option.some.injEq] at h
      rw [splitLabel, if_neg h]

/-- The first separator ends the label, whatever comes after it. -/
theorem splitLabel_of_separator {before : Text} (h : ¬ separator <:+: before) (body : Text) :
    splitLabel (before ++ separator ++ body) = some (before, body) := by
  induction before with
  | nil => rfl
  | cons c before ih =>
      rw [List.infix_cons_iff, not_or] at h
      have here : ¬ separator <+: c :: (before ++ separator ++ body) := by
        -- A separator that starts with `c` would end in the label or in the first separator.
        have outside := h.1
        rw [separator_prefix_cons_iff] at outside ⊢
        cases before with
        | nil => simp [separator]
        | cons d before => exact outside
      rw [List.cons_append, List.cons_append, splitLabel_cons here, ih h.2]
      rfl

/-- A line is cut where the separator comes first. -/
theorem of_splitLabel {t before body : Text} (h : splitLabel t = some (before, body)) :
    t = before ++ separator ++ body ∧ ¬ separator <:+: before := by
  induction t generalizing before with
  | nil => cases h
  | cons c t ih =>
      by_cases hs : separator <+: c :: t
      · obtain ⟨u, hu⟩ := hs
        have cut : splitLabel (c :: t) = some ([], u) := by
          rw [← hu]
          rfl
        obtain ⟨rfl, rfl⟩ := Prod.mk.inj (Option.some.inj (cut.symm.trans h))
        exact ⟨hu.symm, by simp [separator]⟩
      · rw [splitLabel_cons hs] at h
        obtain ⟨⟨before, _⟩, hcut, heq⟩ := Option.map_eq_some_iff.mp h
        obtain ⟨rfl, rfl⟩ := Prod.mk.inj heq
        obtain ⟨ht, rest⟩ := ih hcut
        refine ⟨congrArg (c :: ·) ht, ?_⟩
        rw [List.infix_cons_iff, not_or]
        refine ⟨fun first => hs ?_, rest⟩
        rw [ht, List.append_assoc, ← List.cons_append]
        exact first.trans (List.prefix_append _ _)

theorem splitLabel_eq_some_iff {t before body : Text} :
    splitLabel t = some (before, body) ↔
      t = before ++ separator ++ body ∧ ¬ separator <:+: before := by
  constructor
  · exact of_splitLabel
  · rintro ⟨rfl, h⟩
    exact splitLabel_of_separator h body

namespace RuleLine

/-- A line is a rule exactly if it has a separator and the text before the first one is not
blank. -/
theorem parse?_eq_some_iff {line : Text} {rule : RuleLine} :
    parse? line = some rule ↔
      ∃ before body, line = before ++ separator ++ body ∧ ¬ separator <:+: before ∧
        Text.trim before ≠ [] ∧
        rule = { label := Text.trim before, tokens := body.splitOn ' ' } := by
  unfold parse?
  simp only [Option.bind_eq_bind, Option.bind_eq_some_iff, Prod.exists, splitLabel_eq_some_iff,
    and_assoc]
  refine exists_congr fun before => exists_congr fun body => ?_
  refine and_congr_right fun _ => and_congr_right fun _ => ?_
  by_cases hb : Text.trim before = []
  · simp [hb]
  · rw [if_neg (by simpa using hb), Option.some.injEq, and_iff_right hb, eq_comm]

end RuleLine

/-! ### Labels and tokens -/

theorem Text.trim_trim (t : Text) : trim (trim t) = trim t :=
  trimWhile_eq_self_iff.mpr ⟨fun _ => head?_trimWhile, fun _ => getLast?_dropEndWhile⟩

/-- The characters of a token are characters of the body, and none of them is a space. -/
theorem mem_of_mem_splitOn {body token : Text} (h : token ∈ body.splitOn ' ') {c : Char}
    (hc : c ∈ token) : c ∈ body ∧ c ≠ ' ' := by
  induction body generalizing token with
  | nil =>
      rw [List.splitOn_nil, List.mem_singleton] at h
      rw [h] at hc
      cases hc
  | cons d body ih =>
      rw [List.splitOn_cons_eq_if_modifyHead] at h
      split at h
      · rcases List.mem_cons.mp h with rfl | h
        · cases hc
        · exact (ih h hc).imp_left (List.mem_cons_of_mem d)
      · rename_i hd
        obtain ⟨w, ws, hw⟩ := List.exists_cons_of_ne_nil (List.splitOn_ne_nil ' ' body)
        rw [hw] at h ih
        rw [List.modifyHead_cons] at h
        rcases List.mem_cons.mp h with rfl | h
        · rcases List.mem_cons.mp hc with rfl | hc
          · exact ⟨List.mem_cons_self, by simpa using hd⟩
          · exact (ih List.mem_cons_self hc).imp_left (List.mem_cons_of_mem d)
        · exact (ih (List.mem_cons_of_mem w h) hc).imp_left (List.mem_cons_of_mem d)

theorem mem_intersperse {α : Type} {x a : α} {as : List α} (h : a ∈ as.intersperse x) :
    a = x ∨ a ∈ as := by
  fun_induction List.intersperse x as with
  | case1 => exact .inr h
  | case2 b => exact .inr h
  | case3 b bs hbs ih =>
      rcases List.mem_cons.mp h with rfl | h
      · exact .inr List.mem_cons_self
      · rcases List.mem_cons.mp h with rfl | h
        · exact .inl rfl
        · exact (ih h).imp_right (List.mem_cons_of_mem b)

theorem mem_of_mem_intercalate {tokens : List Text} {c : Char}
    (h : c ∈ [' '].intercalate tokens) : c = ' ' ∨ ∃ t ∈ tokens, c ∈ t := by
  obtain ⟨t, ht, hc⟩ := List.mem_flatten.mp h
  rcases mem_intersperse ht with rfl | ht
  · exact .inl (List.mem_singleton.mp hc)
  · exact .inr ⟨t, ht, hc⟩

/-- What can stand as the label of a line. -/
structure IsLabel (name : Text) : Prop where
  ne_nil : name ≠ []
  trim_eq : Text.trim name = name
  newline_not_mem : '\n' ∉ name
  separator_not_infix : ¬ separator <:+: name

/-- What can stand as a token that names a rule. -/
structure IsReference (name : Text) : Prop where
  ne_nil : name ≠ []
  space_not_mem : ' ' ∉ name
  newline_not_mem : '\n' ∉ name
  head?_ne : name.head? ≠ some '"'
  getLast?_ne : name.getLast? ≠ some '\r'

/-- What can stand for a symbol without its place being lost: a terminal between double quotes, a
nonterminal by its name. -/
def Symbol.IsWritable : Symbol → Prop
  | terminal content => ' ' ∉ content ∧ '\n' ∉ content
  | nonterminal name => IsReference name

instance : DecidablePred IsLabel := fun name =>
  decidable_of_iff (name ≠ [] ∧ Text.trim name = name ∧ '\n' ∉ name ∧ ¬ separator <:+: name)
    ⟨fun ⟨h₁, h₂, h₃, h₄⟩ => ⟨h₁, h₂, h₃, h₄⟩, fun ⟨h₁, h₂, h₃, h₄⟩ => ⟨h₁, h₂, h₃, h₄⟩⟩

instance : DecidablePred IsReference := fun name =>
  decidable_of_iff (name ≠ [] ∧ ' ' ∉ name ∧ '\n' ∉ name ∧ name.head? ≠ some '"' ∧
      name.getLast? ≠ some '\r')
    ⟨fun ⟨h₁, h₂, h₃, h₄, h₅⟩ => ⟨h₁, h₂, h₃, h₄, h₅⟩,
      fun ⟨h₁, h₂, h₃, h₄, h₅⟩ => ⟨h₁, h₂, h₃, h₄, h₅⟩⟩

instance : DecidablePred Symbol.IsWritable
  | .terminal content => inferInstanceAs (Decidable (' ' ∉ content ∧ '\n' ∉ content))
  | .nonterminal name => inferInstanceAs (Decidable (IsReference name))

namespace RuleLine

section InSource

variable {source line : Text} {rule : RuleLine} (hl : line ∈ Text.lines source)
  (hr : parse? line = some rule)

include hl hr

/-- A line of a source is the same rule as a text without newlines, but for the line ending of its
last token. -/
theorem exists_parse?_eq_some :
    ∃ u rule', '\n' ∉ u ∧ parse? u = some rule' ∧ rule'.label = rule.label ∧
      rule'.tokens.map Text.chomp = rule.tokens.map Text.chomp := by
  obtain ⟨u, hu, ended⟩ := Text.exists_of_mem_lines hl
  obtain ⟨e, rfl, he⟩ : ∃ e, line = u ++ e ∧ ∀ c ∈ e, Text.isLineEnd c = true := by
    rcases ended with rfl | rfl
    · exact ⟨[], by simp⟩
    · exact ⟨['\n'], rfl, by simp [Text.isLineEnd]⟩
  have parsed := map_chomped_parse?_append u he
  rw [hr, Option.map_some, eq_comm, Option.map_eq_some_iff] at parsed
  obtain ⟨rule', hr', same⟩ := parsed
  obtain ⟨label, tokens⟩ := (RuleLine.mk.injEq _ _ _ _).mp same
  exact ⟨u, rule', hu, hr', label, tokens⟩

theorem isLabel : IsLabel rule.label := by
  obtain ⟨u, rule', hu, hr', label, -⟩ := exists_parse?_eq_some hl hr
  obtain ⟨before, body, rfl, first, some, rfl⟩ := parse?_eq_some_iff.mp hr'
  rw [← label]
  have inside : Text.trim before <:+: before := Text.trimWhile_infix _ before
  refine ⟨some, Text.trim_trim before, fun h => hu ?_, fun h => first (h.trans inside)⟩
  simp [inside.subset h]

/-- Without its line ending, a token has neither a space nor a newline in it. -/
theorem not_mem_chomp {token : Text} (ht : token ∈ rule.tokens) :
    ' ' ∉ Text.chomp token ∧ '\n' ∉ Text.chomp token := by
  obtain ⟨u, rule', hu, hr', -, tokens⟩ := exists_parse?_eq_some hl hr
  obtain ⟨before, body, rfl, -, -, rfl⟩ := parse?_eq_some_iff.mp hr'
  obtain ⟨token', ht', same⟩ : ∃ t ∈ body.splitOn ' ', Text.chomp t = Text.chomp token := by
    rw [← List.mem_map, tokens]
    exact List.mem_map_of_mem ht
  rw [← same]
  constructor
  · intro h
    exact (mem_of_mem_splitOn ht' (Text.mem_of_mem_chomp h)).2 rfl
  · intro h
    apply hu
    simp [(mem_of_mem_splitOn ht' (Text.mem_of_mem_chomp h)).1]

end InSource

/-- A token becomes a symbol that can be written. -/
theorem isWritable_ofToken {token : Text} (space : ' ' ∉ Text.chomp token)
    (newline : '\n' ∉ Text.chomp token) : (Symbol.ofToken (Text.chomp token)).IsWritable := by
  have last : (Text.chomp token).getLast? ≠ some '\r' := fun h =>
    absurd (Text.getLast?_dropEndWhile h) (by decide)
  cases ht : Text.chomp token with
  | nil => exact ⟨List.not_mem_nil, List.not_mem_nil⟩
  | cons c t =>
      rw [ht] at space newline last
      by_cases hc : c = '"'
      · have kept : ∀ d ∈ Text.stripLast '"' t, d ∈ c :: t := fun d hd =>
          List.mem_cons_of_mem c (Text.mem_of_mem_stripLast hd)
        rw [Symbol.ofToken, if_pos hc]
        exact ⟨fun h => space (kept _ h), fun h => newline (kept _ h)⟩
      · rw [Symbol.ofToken, if_neg hc]
        exact ⟨List.cons_ne_nil c t, space, newline, by simpa using hc, last⟩

theorem tokens_ne_nil {line : Text} {rule : RuleLine} (h : parse? line = some rule) :
    rule.tokens ≠ [] := by
  obtain ⟨before, body, -, -, -, rfl⟩ := parse?_eq_some_iff.mp h
  exact List.splitOn_ne_nil ' ' body

end RuleLine
end LineGrammar
