import LineGrammar.Token

/-! # The two ends of a text

How removing characters from the end of a text acts on its first character and on what is put at
its end.  A token that starts with `r` still does so without its line ending, and then its pattern
is what follows (`pattern?_chomp`). -/

namespace LineGrammar

namespace Text

/-- How a text starts with two given characters. -/
theorem pair_prefix_cons_iff {a b c : Char} {t : Text} :
    [a, b] <+: c :: t ↔ c = a ∧ t.head? = some b := by
  rw [List.cons_prefix_cons, eq_comm]
  refine and_congr_right fun _ => ?_
  cases t with
  | nil => simp
  | cons d t => simp [eq_comm]

/-- The end of a longer text is removed first; the whole text goes only if the rest has gone. -/
theorem dropEndWhile_cons (p : Char → Bool) (c : Char) (t : Text) :
    dropEndWhile p (c :: t) =
      if p c ∧ dropEndWhile p t = [] then [] else c :: dropEndWhile p t := by
  unfold dropEndWhile
  rw [List.reverse_cons, List.dropWhile_append]
  cases h : t.reverse.dropWhile p with
  | nil => by_cases hc : p c <;> simp [hc]
  | cons d u => simp

theorem dropEndWhile_isPrefix (p : Char → Bool) (t : Text) : dropEndWhile p t <+: t := by
  have suffix : t.reverse.dropWhile p <:+ t.reverse := List.dropWhile_suffix p
  rwa [← List.reverse_prefix, List.reverse_reverse] at suffix

/-- What is left of a text does not end in what is removed from its end. -/
theorem getLast?_dropEndWhile {p : Char → Bool} {t : Text} {c : Char}
    (h : (dropEndWhile p t).getLast? = some c) : p c = false := by
  have first := List.head?_dropWhile_not p t.reverse
  unfold dropEndWhile at h
  rw [List.getLast?_reverse] at h
  rwa [h] at first

theorem trimWhile_infix (p : Char → Bool) (t : Text) : trimWhile p t <:+: t :=
  (dropEndWhile_isPrefix p _).isInfix.trans (List.dropWhile_suffix p).isInfix

theorem head?_trimWhile {p : Char → Bool} {t : Text} {c : Char}
    (h : (trimWhile p t).head? = some c) : p c = false := by
  have first := List.head?_dropWhile_not p t
  have same : (t.dropWhile p).head? = some c := by
    obtain ⟨u, hu⟩ := dropEndWhile_isPrefix p (t.dropWhile p)
    obtain ⟨v, hv⟩ := List.head?_eq_some_iff.mp h
    unfold trimWhile at hv
    rw [← hu, hv]
    rfl
  rwa [same] at first

theorem dropWhile_eq_self {p : Char → Bool} {t : Text}
    (h : ∀ c, t.head? = some c → p c = false) : t.dropWhile p = t := by
  cases t with
  | nil => rfl
  | cons c t => exact List.dropWhile_cons_of_neg (by simp [h c rfl])

theorem dropEndWhile_eq_self {p : Char → Bool} {t : Text}
    (h : ∀ c, t.getLast? = some c → p c = false) : dropEndWhile p t = t := by
  have kept : t.reverse.dropWhile p = t.reverse :=
    dropWhile_eq_self fun c hc => h c (by rwa [List.head?_reverse] at hc)
  unfold dropEndWhile
  rw [kept, List.reverse_reverse]

/-- Trimming changes nothing exactly if neither end is to be removed. -/
theorem trimWhile_eq_self_iff {p : Char → Bool} {t : Text} :
    trimWhile p t = t ↔
      (∀ c, t.head? = some c → p c = false) ∧ ∀ c, t.getLast? = some c → p c = false := by
  constructor
  · intro h
    refine ⟨fun c hc => ?_, fun c hc => ?_⟩
    · rw [← h] at hc
      exact head?_trimWhile hc
    · rw [← h] at hc
      exact getLast?_dropEndWhile hc
  · rintro ⟨first, last⟩
    unfold trimWhile
    rw [dropWhile_eq_self first, dropEndWhile_eq_self last]

theorem stripLast_concat (c : Char) (t : Text) : stripLast c (t ++ [c]) = t := by
  unfold stripLast
  rw [List.reverse_append, List.reverse_singleton, List.singleton_append, stripFirst, if_pos rfl,
    List.reverse_reverse]

theorem mem_of_mem_stripLast {c d : Char} {t : Text} (h : d ∈ stripLast c t) : d ∈ t := by
  unfold stripLast at h
  rw [List.mem_reverse] at h
  rw [← List.mem_reverse]
  cases ht : t.reverse with
  | nil =>
      rw [ht] at h
      cases h
  | cons e u =>
      rw [ht, stripFirst] at h
      split at h
      · exact List.mem_cons_of_mem e h
      · exact h

theorem chomp_cons {c : Char} (h : isLineEnd c = false) (t : Text) :
    chomp (c :: t) = c :: chomp t := by
  unfold chomp
  rw [dropEndWhile_cons]
  simp [h]

theorem head?_chomp_cons (c : Char) (t : Text) :
    (chomp (c :: t)).head? = some c ∨ chomp (c :: t) = [] := by
  unfold chomp
  rw [dropEndWhile_cons]
  split
  · exact .inr rfl
  · exact .inl rfl

theorem chomp_append (t : Text) {e : Text} (he : ∀ c ∈ e, isLineEnd c = true) :
    chomp (t ++ e) = chomp t := by
  unfold chomp dropEndWhile
  rw [List.reverse_append, List.dropWhile_append_of_pos]
  intro c hc
  exact he c (List.mem_reverse.mp hc)

/-- A text is what is left of it without its line ending, and that line ending. -/
theorem exists_chomp_append (t : Text) :
    ∃ e, t = chomp t ++ e ∧ ∀ c ∈ e, isLineEnd c = true := by
  refine ⟨(t.reverse.takeWhile isLineEnd).reverse, ?_, fun c hc => ?_⟩
  · unfold chomp dropEndWhile
    rw [← List.reverse_append, List.takeWhile_append_dropWhile, List.reverse_reverse]
  · exact List.all_eq_true.mp List.all_takeWhile c (List.mem_reverse.mp hc)

theorem chomp_chomp (t : Text) : chomp (chomp t) = chomp t := by
  obtain ⟨e, ht, he⟩ := exists_chomp_append t
  conv => rhs; rw [ht, chomp_append _ he]

theorem mem_of_mem_chomp {c : Char} {t : Text} (h : c ∈ chomp t) : c ∈ t :=
  (dropEndWhile_isPrefix isLineEnd t).subset h

theorem chomp_cons_congr (c : Char) {t u : Text} (h : chomp t = chomp u) :
    chomp (c :: t) = chomp (c :: u) := by
  unfold chomp at h ⊢
  rw [dropEndWhile_cons, dropEndWhile_cons, h]

end Text

/-- The pattern that a token holds, told by its first character. -/
theorem pattern?_chomp (token : Text) :
    pattern? (Text.chomp token) =
      if token.head? = some 'r' then some (Text.chomp token).tail else none := by
  cases token with
  | nil => rfl
  | cons c t =>
      cases hc : Text.isLineEnd c with
      | false =>
          rw [Text.chomp_cons hc]
          simp [pattern?]
      | true =>
          have hr : c ≠ 'r' := by
            rintro rfl
            exact absurd hc (by decide)
          have hn : ¬ (c :: t).head? = some 'r' := by simpa using hr
          rw [if_neg hn]
          rcases Text.head?_chomp_cons c t with h | h
          · obtain ⟨u, hu⟩ := List.head?_eq_some_iff.mp h
            rw [hu, pattern?, if_neg hr]
          · rw [h, pattern?]

end LineGrammar
