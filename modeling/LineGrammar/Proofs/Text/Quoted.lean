import LineGrammar.Proofs.Json.RoundTrip
import LineGrammar.Text.Quoted

/-! # Where a written item ends

Items that are written one after another can be told apart if the text of each says where it ends
(`PrefixFree`).  So does a list of such items that is closed by a character that starts none of them
(`PrefixFree.closed`).

The characters between the quotes of a quoted text are items of this kind: each is read back from
the way in which it is written, whichever characters are hidden (`readEscaped_escape`).  None of
them starts with a quote, so a quoted text says where it ends as well (`prefixFree_quoted`). -/

namespace LineGrammar

variable {α β : Type} {write : α → Text}

/-- The text of an item can be split off whatever follows it. -/
def PrefixFree (write : α → Text) : Prop :=
  ∀ ⦃a b : α⦄ ⦃t u : Text⦄, write a ++ t = write b ++ u → a = b ∧ t = u

namespace PrefixFree

theorem of_reader {read : Text → Option (α × Text)}
    (h : ∀ a t, read (write a ++ t) = some (a, t)) : PrefixFree write := by
  intro a b t u equal
  have same := h a t
  rw [equal, h b u, Option.some.injEq, Prod.mk.injEq] at same
  exact ⟨same.1.symm, same.2.symm⟩

theorem injective (free : PrefixFree write) : Function.Injective write := fun a b h =>
  (free (t := []) (u := []) (by rw [h])).1

theorem comp (free : PrefixFree write) {f : β → α} (hf : Function.Injective f) :
    PrefixFree (write ∘ f) := fun _ _ _ _ h => (free h).imp_left fun e => hf e

/-- A text in front of every item does no harm. -/
theorem prepend (free : PrefixFree write) (lead : Text) : PrefixFree fun a => lead ++ write a := by
  intro a b t u h
  rw [List.append_assoc, List.append_assoc] at h
  exact free (List.append_cancel_left h)

/-- Items one after another are told apart if a character that starts none of them follows. -/
theorem closed (free : PrefixFree write) {close : Char}
    (h : ∀ a, ∃ c t, write a = c :: t ∧ c ≠ close) :
    PrefixFree fun l : List α => l.flatMap write ++ [close] := by
  intro l
  induction l with
  | nil =>
      intro m t u equal
      cases m with
      | nil => exact ⟨rfl, by simpa using equal⟩
      | cons b m =>
          obtain ⟨c, v, written, other⟩ := h b
          simp [written, other.symm] at equal
  | cons a l ih =>
      intro m t u equal
      cases m with
      | nil =>
          obtain ⟨c, v, written, other⟩ := h a
          simp [written, other] at equal
      | cons b m =>
          simp only [List.flatMap_cons, List.append_assoc (write _)] at equal
          obtain ⟨rfl, rest⟩ := free equal
          exact (ih rest).imp_left (congrArg (List.cons a))

end PrefixFree

namespace Text

def hexNumber (digits : Text) : Nat :=
  digits.foldl (fun n c => 16 * n + (Json.hexValue? c).getD 0) 0

theorem hexNumber_toDigits (n : Nat) : hexNumber (Nat.toDigits 16 n) = n := by
  induction n using Nat.strongRecOn with
  | ind n ih =>
      by_cases small : n < 16
      · rw [Nat.toDigits_of_lt_base small]
        simp [hexNumber, Json.hexValue?_digitChar n small]
      · have last := Json.hexValue?_digitChar (n % 16) (Nat.mod_lt n (by decide))
        have lead := ih (n / 16) (by omega)
        unfold hexNumber at lead ⊢
        rw [Nat.toDigits_of_base_le (by decide) (by omega), List.foldl_append, lead,
          List.foldl_cons, List.foldl_nil, last, Option.getD_some]
        exact Nat.div_add_mod n 16

theorem exists_digitChar_of_mem_toDigits {n : Nat} {c : Char} (h : c ∈ Nat.toDigits 16 n) :
    ∃ d < 16, c = Nat.digitChar d := by
  induction n using Nat.strongRecOn with
  | ind n ih =>
      by_cases small : n < 16
      · rw [Nat.toDigits_of_lt_base small, List.mem_singleton] at h
        exact ⟨n, small, h⟩
      · rw [Nat.toDigits_of_base_le (by decide) (by omega), List.mem_append,
          List.mem_singleton] at h
        rcases h with h | h
        · exact ih (n / 16) (by omega) h
        · exact ⟨n % 16, Nat.mod_lt n (by decide), h⟩

/-- No digit closes a code point, and none has a meaning of its own between quotes. -/
theorem ne_of_mem_toDigits {n : Nat} {c : Char} (h : c ∈ Nat.toDigits 16 n) :
    c ≠ '}' ∧ c ≠ '"' ∧ c ≠ '\\' ∧ c ≠ '\n' := by
  obtain ⟨d, hd, rfl⟩ := exists_digitChar_of_mem_toDigits h
  exact (by decide : ∀ d < 16, Nat.digitChar d ≠ '}' ∧ Nat.digitChar d ≠ '"' ∧
    Nat.digitChar d ≠ '\\' ∧ Nat.digitChar d ≠ '\n') d hd

/-! ### Characters between quotes -/

/-- The character that is written as `c` behind a backslash. -/
def unescaped (c : Char) : Char :=
  if c = '0' then '\x00' else if c = 't' then '\t' else if c = 'n' then '\n'
  else if c = 'r' then '\r' else c

/-- The character that is written at the start of a text, and what follows it. -/
def readEscaped : Text → Option (Char × Text)
  | [] => none
  | c :: t =>
    if c ≠ '\\' then some (c, t)
    else match t with
      | [] => none
      | c :: t =>
        if c ≠ 'u' then some (unescaped c, t)
        else
          let digits := t.tail.takeWhile (· ≠ '}')
          some (Char.ofNat (hexNumber digits), t.tail.drop (digits.length + 1))

variable (hidden : Char → Bool)

/-- A character is read back from the way in which it is written. -/
theorem readEscaped_escape (c : Char) (rest : Text) :
    readEscaped (escape hidden c ++ rest) = some (c, rest) := by
  unfold escape
  split_ifs with h₁ h₂ h₃ h₄ h₅ h₆ h₇
  iterate 6 (subst_vars; rfl)
  · have digits : (Nat.toDigits 16 c.toNat ++ '}' :: rest).takeWhile (· ≠ '}') =
        Nat.toDigits 16 c.toNat := by
      rw [List.takeWhile_append_of_pos fun d hd => decide_eq_true (ne_of_mem_toDigits hd).1,
        List.takeWhile_cons_of_neg (by decide), List.append_nil]
    have code : ['\\', 'u', '{'] ++ Nat.toDigits 16 c.toNat ++ ['}'] ++ rest =
        '\\' :: 'u' :: '{' :: (Nat.toDigits 16 c.toNat ++ '}' :: rest) := by simp
    rw [code]
    simp only [readEscaped, ne_eq, not_true_eq_false, if_false, List.tail_cons]
    rw [digits, hexNumber_toDigits, Char.ofNat_toNat]
    simp
  · simp [readEscaped, h₂]

theorem prefixFree_escape : PrefixFree (escape hidden) :=
  .of_reader (readEscaped_escape hidden)

/-- A character is written behind a backslash or as it is, and no quote is written as it is. -/
theorem escape_eq (c : Char) :
    (∃ t, escape hidden c = '\\' :: t) ∨ escape hidden c = [c] ∧ c ≠ '"' := by
  unfold escape
  split_ifs with h₁
  iterate 7 exact .inl ⟨_, rfl⟩
  exact .inr ⟨rfl, h₁⟩

theorem exists_escape_eq (c : Char) : ∃ d t, escape hidden c = d :: t ∧ d ≠ '"' := by
  rcases escape_eq hidden c with ⟨t, written⟩ | ⟨written, other⟩
  · exact ⟨'\\', t, written, by decide⟩
  · exact ⟨c, [], written, other⟩

/-- A quoted text says where it ends. -/
theorem prefixFree_quoted : PrefixFree (quoted hidden) :=
  ((prefixFree_escape hidden).closed (exists_escape_eq hidden)).prepend ['"']

end Text
end LineGrammar
