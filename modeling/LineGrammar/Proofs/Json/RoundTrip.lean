import LineGrammar.Proofs.Json.Members
import LineGrammar.Proofs.Json.Reader

/-! # Reading back what is written

The indented form of a JSON value is read back to that value (`read_pretty`), whatever white space
it is indented with.  The value must be well formed: a number must be one, and no object may have
two members of one name. -/

namespace LineGrammar.Json

/-- Numbers are written as JSON has it, and the members of an object have distinct names. -/
inductive WellFormed : Json → Prop
  | null : WellFormed null
  | bool (b : Bool) : WellFormed (bool b)
  | number {t : Text} : isNumber t = true → WellFormed (number t)
  | string (t : Text) : WellFormed (string t)
  | array {items : List Json} : (∀ v ∈ items, WellFormed v) → WellFormed (array items)
  | object {members : List (Text × Json)} :
      (names members).Nodup → (∀ m ∈ members, WellFormed m.2) → WellFormed (object members)

theorem hexValue?_digitChar : ∀ d < 16, hexValue? (Nat.digitChar d) = some d := by decide

theorem readUnit_digitChar {n : Nat} (h : n < 0x20) (rest : Text) :
    readUnit ('0' :: '0' :: Nat.digitChar (n / 16) :: Nat.digitChar (n % 16) :: rest) =
      some (n, rest) := by
  have zero : hexValue? '0' = some 0 := by decide
  have high := hexValue?_digitChar (n / 16) (by omega)
  have low := hexValue?_digitChar (n % 16) (by omega)
  have value : 16 * (n / 16) + n % 16 = n := by omega
  simp [readUnit, zero, high, low, value]

/-- A character is read back from the way in which it is written. -/
theorem readChar_escape (c : Char) (rest : Text) : readChar (escape c ++ rest) = some (c, rest) := by
  unfold escape
  split_ifs with h₁ h₂ h₃ h₄ h₅ h₆ h₇ h₈
  iterate 7 (subst_vars; rfl)
  · have small : ¬ (0xd800 ≤ c.toNat ∧ c.toNat < 0xdc00) := by omega
    have small' : ¬ (0xdc00 ≤ c.toNat ∧ c.toNat < 0xe000) := by omega
    simp only [List.cons_append, List.nil_append, readChar, if_true, readCodePoint,
      readUnit_digitChar h₈, Option.bind_eq_bind, Option.bind_some, if_neg small, if_neg small',
      Char.ofNat_toNat]
    rfl
  · simp only [List.cons_append, List.nil_append, readChar, if_neg h₂, if_neg h₈]

theorem exists_escape (c : Char) : ∃ d u, escape c = d :: u ∧ d ≠ '"' := by
  unfold escape
  split_ifs with h₁
  iterate 8 exact ⟨_, _, rfl, by decide⟩
  exact ⟨_, _, rfl, h₁⟩

theorem readContent_escape {n : Nat} {s : Text} (h : s.length < n) (rest : Text) :
    readContent n (s.flatMap escape ++ '"' :: rest) = some (s, rest) := by
  induction s generalizing n with
  | nil =>
      cases n with
      | zero => simp at h
      | succ n => simp [readContent]
  | cons c s ih =>
      cases n with
      | zero => simp at h
      | succ n =>
          obtain ⟨d, u, he, hd⟩ := exists_escape c
          have first : readChar (d :: (u ++ (s.flatMap escape ++ '"' :: rest))) =
              some (c, s.flatMap escape ++ '"' :: rest) := by
            rw [← List.cons_append, ← he, readChar_escape]
          rw [List.flatMap_cons, List.append_assoc, he, List.cons_append, readContent,
            List.head?_cons, if_neg (by simpa using hd), first]
          simp [ih (by simpa using h)]

theorem length_le_flatMap_escape (s : Text) : s.length ≤ (s.flatMap escape).length := by
  induction s with
  | nil => simp
  | cons c s ih =>
      obtain ⟨d, u, he, -⟩ := exists_escape c
      rw [List.flatMap_cons, List.length_append, he]
      simp only [List.length_cons]
      omega

theorem readContent_quote (s rest : Text) :
    ∃ t, quote s ++ rest = '"' :: t ∧ readContent t.length t = some (s, rest) := by
  refine ⟨s.flatMap escape ++ '"' :: rest, by simp [quote], readContent_escape ?_ rest⟩
  have := length_le_flatMap_escape s
  simp only [List.length_append, List.length_cons]
  omega

theorem skipBlanks_append {blanks : Text} (h : ∀ c ∈ blanks, isBlank c = true) (t : Text) :
    skipBlanks (blanks ++ t) = skipBlanks t := by
  unfold skipBlanks
  rw [List.dropWhile_append_of_pos h]

theorem skipBlanks_cons {c : Char} (h : isBlank c = false) (t : Text) :
    skipBlanks (c :: t) = c :: t := by
  unfold skipBlanks
  rw [List.dropWhile_cons_of_neg (by simp [h])]

theorem isBlank_newline {indent : Text} (h : ∀ c ∈ indent, isBlank c = true) (depth : Nat) :
    ∀ c ∈ newline indent depth, isBlank c = true := by
  intro c hc
  rcases List.mem_cons.mp hc with rfl | hc
  · decide
  · obtain ⟨t, ht, hc⟩ := List.mem_flatten.mp hc
    exact h c (List.eq_of_mem_replicate ht ▸ hc)

theorem readValue_append {blanks : Text} (h : ∀ c ∈ blanks, isBlank c = true) (n : Nat)
    (t : Text) : readValue n (blanks ++ t) = readValue n t := by
  cases n with
  | zero => rfl
  | succ n =>
      unfold readValue
      rw [skipBlanks_append h]

theorem readMember_append {blanks : Text} (h : ∀ c ∈ blanks, isBlank c = true)
    (value : Text → Option (Json × Text)) (t : Text) :
    readMember value (blanks ++ t) = readMember value t := by
  unfold readMember
  rw [skipBlanks_append h]

/-! ### Words and numbers -/

/-- The text `rest` cannot carry on a word or a number that stands before it. -/
def Stops (rest : Text) : Prop := ∀ c ∈ rest.head?, isWordChar c = false

theorem stops_nil : Stops [] := by simp [Stops]

theorem stops_cons {c : Char} (h : isWordChar c = false) (t : Text) : Stops (c :: t) := by
  intro d hd
  rwa [← Option.mem_some_iff.mp hd]

theorem isWordChar_of_isBlank {c : Char} (h : isBlank c = true) : isWordChar c = false := by
  simp only [isBlank, decide_eq_true_eq] at h
  rcases h with rfl | rfl | rfl | rfl <;> decide

theorem stops_append {blanks : Text} (h : ∀ c ∈ blanks, isBlank c = true) {t : Text}
    (ht : Stops t) : Stops (blanks ++ t) := by
  cases blanks with
  | nil => exact ht
  | cons c blanks => exact stops_cons (isWordChar_of_isBlank (h c List.mem_cons_self)) _

theorem readWord_append {t rest : Text} {v : Json} (h : ∀ c ∈ t, isWordChar c = true)
    (hv : ofWord? t = some v) (hr : Stops rest) : readWord (t ++ rest) = some (v, rest) := by
  have take : (t ++ rest).takeWhile isWordChar = t := by
    rw [List.takeWhile_append_of_pos h]
    cases rest with
    | nil => simp
    | cons c u => rw [List.takeWhile_cons_of_neg (by simp [hr c rfl]), List.append_nil]
  have drop : (t ++ rest).dropWhile isWordChar = rest := by
    rw [List.dropWhile_append_of_pos h]
    cases rest with
    | nil => rfl
    | cons c u => rw [List.dropWhile_cons_of_neg (by simp [hr c rfl])]
  unfold readWord
  rw [take, drop, hv, Option.map_some]

/-- A word is read as a value: its first character opens nothing else. -/
theorem readValue_word {t rest : Text} {v : Json} (h : ∀ c ∈ t, isWordChar c = true)
    (hv : ofWord? t = some v) (hr : Stops rest) (n : Nat) :
    readValue (n + 1) (t ++ rest) = some (v, rest) := by
  cases t with
  | nil => cases hv
  | cons c t =>
      have hc := h c List.mem_cons_self
      have blank : isBlank c = false := by
        by_contra hb
        rw [isWordChar_of_isBlank (by simpa using hb)] at hc
        cases hc
      have other : ∀ d, isWordChar d = false → c ≠ d := by
        rintro d hd rfl
        rw [hd] at hc
        cases hc
      have first : skipBlanks (c :: t ++ rest) = c :: (t ++ rest) := skipBlanks_cons blank _
      unfold readValue
      rw [first]
      simp only [if_neg (other '"' (by decide)), if_neg (other '[' (by decide)),
        if_neg (other '{' (by decide))]
      exact readWord_append h hv hr

theorem isWordChar_of_isDigit {c : Char} (h : c.isDigit = true) : isWordChar c = true := by
  simp [isWordChar, Char.isAlphanum, h]

theorem isWordChar_of_isExponent {t : Text} (h : isExponent t = true) :
    ∀ c ∈ t, isWordChar c = true := by
  cases t with
  | nil => simp
  | cons e t =>
      simp only [isExponent, Bool.decide_and, Bool.decide_or, Bool.and_eq_true, Bool.or_eq_true,
        decide_eq_true_eq] at h
      obtain ⟨he, -, hd⟩ := h
      intro c hc
      rcases List.mem_cons.mp hc with rfl | hc
      · rcases he with rfl | rfl <;> decide
      · split at hd
        · rename_i sign
          cases t with
          | nil => cases hc
          | cons s t =>
              simp only [List.head?_cons, Option.some.injEq] at sign
              rcases List.mem_cons.mp hc with rfl | hc
              · rcases sign with rfl | rfl <;> decide
              · exact isWordChar_of_isDigit (List.all_eq_true.mp hd c hc)
        · exact isWordChar_of_isDigit (List.all_eq_true.mp hd c hc)

/-- A text that is cut behind its digits consists of word characters if its end does. -/
theorem isWordChar_of_dropWhile {t : Text}
    (h : ∀ c ∈ t.dropWhile Char.isDigit, isWordChar c = true) : ∀ c ∈ t, isWordChar c = true := by
  intro c hc
  rw [← List.takeWhile_append_dropWhile (p := Char.isDigit) (l := t)] at hc
  rcases List.mem_append.mp hc with hc | hc
  · exact isWordChar_of_isDigit (List.all_eq_true.mp List.all_takeWhile c hc)
  · exact h c hc

theorem isWordChar_of_isFraction {t : Text} (h : isFraction t = true) :
    ∀ c ∈ t, isWordChar c = true := by
  unfold isFraction at h
  split at h
  · rename_i point
    obtain ⟨u, rfl⟩ : ∃ u, t = '.' :: u := List.head?_eq_some_iff.mp point
    rw [List.tail_cons, decide_eq_true_eq] at h
    intro c hc
    rcases List.mem_cons.mp hc with rfl | hc
    · decide
    · exact isWordChar_of_dropWhile (isWordChar_of_isExponent h.2) c hc
  · exact isWordChar_of_isExponent h

theorem isWordChar_of_isNumber {t : Text} (h : isNumber t = true) :
    ∀ c ∈ t, isWordChar c = true := by
  have digits : ∀ c ∈ Text.stripFirst '-' t, isWordChar c = true := by
    simp only [isNumber, Bool.decide_and, Bool.and_eq_true, decide_eq_true_eq] at h
    exact isWordChar_of_dropWhile (isWordChar_of_isFraction h.2.2)
  cases t with
  | nil => simp
  | cons s t =>
      simp only [Text.stripFirst] at digits
      split at digits
      · rename_i sign
        intro c hc
        rcases List.mem_cons.mp hc with rfl | hc
        · rw [sign]
          decide
        · exact digits c hc
      · exact digits

theorem ofWord?_of_isNumber {t : Text} (h : isNumber t = true) : ofWord? t = some (number t) := by
  have other : ∀ u, isNumber u = false → t ≠ u := by
    rintro u hu rfl
    rw [hu] at h
    cases h
  unfold ofWord?
  rw [if_neg (other _ (by decide)), if_neg (other _ (by decide)), if_neg (other _ (by decide)),
    if_pos h]

/-! ### Items -/

section items

variable {α : Type} {item : Text → Option (α × Text)} {close : Char} {write : α → Text}
  {blanks : Text}

theorem skipBlanks_close (hc : close = ']' ∨ close = '}') (rest : Text) :
    skipBlanks (close :: rest) = close :: rest := by
  rcases hc with rfl | rfl <;> exact skipBlanks_cons (by decide) rest

/-- What follows an item does not carry on a word in it. -/
theorem stops_join (hc : close = ']' ∨ close = '}') (hw : ∀ c ∈ blanks, isBlank c = true)
    (as : List α) (rest : Text) :
    Stops (as.flatMap (fun b => ',' :: write b) ++ (blanks ++ close :: rest)) := by
  cases as with
  | nil =>
      apply stops_append hw
      rcases hc with rfl | rfl <;> exact stops_cons (by decide) rest
  | cons b as => exact stops_cons (by decide) _

/-- Items are read back if each of them is in front of what follows an item. -/
theorem readItems_join (hc : close = ']' ∨ close = '}') (hw : ∀ c ∈ blanks, isBlank c = true)
    {a : α} {as : List α}
    (h : ∀ b ∈ a :: as, ∀ t, Stops t → item (write b ++ t) = some (b, t)) (rest : Text) {n : Nat}
    (hn : as.length < n) :
    readItems item close n
        (write a ++ (as.flatMap (fun b => ',' :: write b) ++ (blanks ++ close :: rest))) =
      some (a :: as, rest) := by
  induction as generalizing a n with
  | nil =>
      cases n with
      | zero => cases hn
      | succ n =>
          rw [readItems, h a List.mem_cons_self _ (stops_join hc hw [] rest)]
          simp [skipBlanks_append hw, skipBlanks_close hc]
  | cons b as ih =>
      cases n with
      | zero => cases hn
      | succ n =>
          have comma : ',' ≠ close := by
            rcases hc with rfl | rfl <;> decide
          have others := ih (fun d hd => h d (List.mem_cons_of_mem a hd))
            (Nat.lt_of_succ_lt_succ hn)
          rw [readItems, h a List.mem_cons_self _ (stops_join hc hw (b :: as) rest)]
          simp only [Option.bind_eq_bind, Option.bind_some, List.flatMap_cons, List.cons_append,
            List.append_assoc]
          rw [skipBlanks_cons (by decide)]
          simp only [if_neg comma, if_true, others, Option.bind_some]
          rfl

/-- A list of items is read back if moreover no item is what closes the list. -/
theorem readList_join (hc : close = ']' ∨ close = '}') (hw : ∀ c ∈ blanks, isBlank c = true)
    (hitem : ∀ t r, item t = some r → (skipBlanks t).head? ≠ some close) {a : α} {as : List α}
    (h : ∀ b ∈ a :: as, ∀ t, Stops t → item (write b ++ t) = some (b, t)) (rest : Text) :
    readList item close
        (write a ++ (as.flatMap (fun b => ',' :: write b) ++ (blanks ++ close :: rest))) =
      some (a :: as, rest) := by
  have enough : as.length ≤ (as.flatMap fun b => ',' :: write b).length := by
    clear h
    induction as with
    | nil => simp
    | cons b as ih =>
        simp only [List.flatMap_cons, List.length_append, List.length_cons]
        omega
  unfold readList
  rw [if_neg (hitem _ _ (h a List.mem_cons_self _ (stops_join hc hw as rest)))]
  apply readItems_join hc hw h
  simp only [List.length_append, List.length_cons]
  omega

theorem readList_nil (hc : close = ']' ∨ close = '}') (rest : Text) :
    readList item close (close :: rest) = some ([], rest) := by
  unfold readList
  rw [skipBlanks_close hc, List.head?_cons, if_pos rfl, List.tail_cons]

end items

theorem readValue_not_bracket (n : Nat) (t : Text) (r : Json × Text)
    (h : readValue n t = some r) : (skipBlanks t).head? ≠ some ']' := by
  intro hb
  obtain ⟨u, hu⟩ := List.head?_eq_some_iff.mp hb
  cases n with
  | zero => cases h
  | succ n =>
      unfold readValue at h
      rw [hu] at h
      cases h

theorem readMember_not_brace (value : Text → Option (Json × Text)) (t : Text)
    (r : (Text × Json) × Text) (h : readMember value t = some r) :
    (skipBlanks t).head? ≠ some '}' := by
  intro hb
  obtain ⟨u, hu⟩ := List.head?_eq_some_iff.mp hb
  unfold readMember at h
  rw [hu] at h
  cases h

/-! ### Values -/

variable {indent : Text}

def prettyItem (indent : Text) (depth : Nat) (v : Json) : Text :=
  newline indent depth ++ v.pretty indent depth

def prettyMember (indent : Text) (depth : Nat) (m : Text × Json) : Text :=
  newline indent depth ++ (quote m.1 ++ ':' :: ' ' :: m.2.pretty indent depth)

theorem prettyItems_eq (depth : Nat) (items : List Json) (rest : Text) :
    prettyItems indent depth items ++ rest =
      items.flatMap (fun v => ',' :: prettyItem indent (depth + 1) v) ++
        (newline indent depth ++ ']' :: rest) := by
  induction items with
  | nil => simp [prettyItems]
  | cons v items ih => simp [prettyItems, prettyItem, ih]

theorem prettyMembers_eq (depth : Nat) (members : List (Text × Json)) (rest : Text) :
    prettyMembers indent depth members ++ rest =
      members.flatMap (fun m => ',' :: prettyMember indent (depth + 1) m) ++
        (newline indent depth ++ '}' :: rest) := by
  induction members with
  | nil => simp [prettyMembers]
  | cons m members ih => simp [prettyMembers, prettyMember, ih]

theorem pretty_array (depth : Nat) (v : Json) (vs : List Json) (rest : Text) :
    (array (v :: vs)).pretty indent depth ++ rest =
      '[' :: (prettyItem indent (depth + 1) v ++
        (vs.flatMap (fun v => ',' :: prettyItem indent (depth + 1) v) ++
          (newline indent depth ++ ']' :: rest))) := by
  rw [← prettyItems_eq]
  simp [pretty, prettyItem]

theorem pretty_object (depth : Nat) (m : Text × Json) (ms : List (Text × Json)) (rest : Text) :
    (object (m :: ms)).pretty indent depth ++ rest =
      '{' :: (prettyMember indent (depth + 1) m ++
        (ms.flatMap (fun m => ',' :: prettyMember indent (depth + 1) m) ++
          (newline indent depth ++ '}' :: rest))) := by
  rw [← prettyMembers_eq]
  simp [pretty, prettyMember]

theorem length_le_of_mem {α : Type} (write : α → Text) {a b : α} {as : List α}
    (h : b ∈ a :: as) (rest : Text) :
    (write b).length ≤
      (write a ++ (as.flatMap (fun b => ',' :: write b) ++ rest)).length := by
  rcases List.mem_cons.mp h with rfl | h
  · simp
  · have hm : ',' :: write b ∈ as.map fun b => ',' :: write b := List.mem_map.mpr ⟨b, h, rfl⟩
    have := (List.sublist_flatten_of_mem hm).length_le
    rw [List.flatMap_def]
    simp only [List.length_append, List.length_cons] at this ⊢
    omega

theorem length_lt_array (indent : Text) (depth : Nat) {v : Json} {items : List Json}
    (h : v ∈ items) :
    (v.pretty indent (depth + 1)).length < ((array items).pretty indent depth).length := by
  cases items with
  | nil => cases h
  | cons w items =>
      have := length_le_of_mem (prettyItem indent (depth + 1)) h (newline indent depth ++ [']'])
      rw [← List.append_nil ((array (w :: items)).pretty indent depth), pretty_array,
        List.length_cons]
      simp only [prettyItem, List.length_append] at this ⊢
      omega

theorem length_lt_object (indent : Text) (depth : Nat) {m : Text × Json}
    {members : List (Text × Json)} (h : m ∈ members) :
    (m.2.pretty indent (depth + 1)).length < ((object members).pretty indent depth).length := by
  cases members with
  | nil => cases h
  | cons l members =>
      have := length_le_of_mem (prettyMember indent (depth + 1)) h (newline indent depth ++ ['}'])
      rw [← List.append_nil ((object (l :: members)).pretty indent depth), pretty_object,
        List.length_cons]
      simp only [prettyMember, List.length_append, List.length_cons] at this ⊢
      omega

theorem readMember_pretty (hi : ∀ c ∈ indent, isBlank c = true) {depth n : Nat}
    {m : Text × Json} {rest : Text}
    (h : readValue n (m.2.pretty indent depth ++ rest) = some (m.2, rest)) :
    readMember (readValue n) (prettyMember indent depth m ++ rest) = some (m, rest) := by
  obtain ⟨t, ht, content⟩ :=
    readContent_quote m.1 (':' :: ([' '] ++ (m.2.pretty indent depth ++ rest)))
  have written : prettyMember indent depth m ++ rest = newline indent depth ++ '"' :: t := by
    rw [← ht]
    simp [prettyMember]
  have quoted : skipBlanks ('"' :: t) = '"' :: t := skipBlanks_cons (by decide) t
  have colon (u : Text) : skipBlanks (':' :: u) = ':' :: u := skipBlanks_cons (by decide) u
  have value : readValue n ([' '] ++ (m.2.pretty indent depth ++ rest)) = some (m.2, rest) := by
    rw [readValue_append (List.forall_mem_singleton.mpr (by decide)), h]
  rw [written, readMember_append (isBlank_newline hi depth), readMember, quoted]
  simp only [content, Option.bind_eq_bind, Option.bind_some, colon, value]
  rfl

theorem readValue_array (hi : ∀ c ∈ indent, isBlank c = true) {depth n : Nat} {items : List Json}
    (h : ∀ v ∈ items, ∀ t, Stops t → readValue n (v.pretty indent (depth + 1) ++ t) = some (v, t))
    (rest : Text) :
    readValue (n + 1) ((array items).pretty indent depth ++ rest) = some (array items, rest) := by
  have bracket (t : Text) : skipBlanks ('[' :: t) = '[' :: t := skipBlanks_cons (by decide) t
  cases items with
  | nil =>
      have list : readList (readValue n) ']' (']' :: rest) = some ([], rest) :=
        readList_nil (Or.inl rfl) rest
      simp [pretty, readValue, bracket, list]
  | cons v vs =>
      have item : ∀ w ∈ v :: vs, ∀ t, Stops t →
          readValue n (prettyItem indent (depth + 1) w ++ t) = some (w, t) := by
        intro w hw t ht
        rw [prettyItem, List.append_assoc, readValue_append (isBlank_newline hi _), h w hw t ht]
      have list := readList_join (Or.inl rfl) (isBlank_newline hi depth) (readValue_not_bracket n)
        item rest
      rw [pretty_array, readValue, bracket]
      simp [list]

theorem readValue_object (hi : ∀ c ∈ indent, isBlank c = true) {depth n : Nat}
    {members : List (Text × Json)} (hd : (names members).Nodup)
    (h : ∀ m ∈ members, ∀ t, Stops t →
      readValue n (m.2.pretty indent (depth + 1) ++ t) = some (m.2, t)) (rest : Text) :
    readValue (n + 1) ((object members).pretty indent depth ++ rest) =
      some (object members, rest) := by
  have brace (t : Text) : skipBlanks ('{' :: t) = '{' :: t := skipBlanks_cons (by decide) t
  cases members with
  | nil =>
      have list : readList (readMember (readValue n)) '}' ('}' :: rest) = some ([], rest) :=
        readList_nil (Or.inr rfl) rest
      simp [pretty, readValue, brace, list, setMembers_of_nodup hd]
  | cons m ms =>
      have member : ∀ l ∈ m :: ms, ∀ t, Stops t →
          readMember (readValue n) (prettyMember indent (depth + 1) l ++ t) = some (l, t) :=
        fun l hl t ht => readMember_pretty hi (h l hl t ht)
      have list := readList_join (Or.inr rfl) (isBlank_newline hi depth)
        (readMember_not_brace (readValue n)) member rest
      rw [pretty_object, readValue, brace]
      simp [list, setMembers_of_nodup hd]

/-- **A well-formed value is read back in front of whatever does not carry on its last word.**  Of
brackets around one another a value has no more than characters, which bounds the fuel. -/
theorem readValue_pretty (hi : ∀ c ∈ indent, isBlank c = true) {v : Json} (h : WellFormed v) :
    ∀ (depth n : Nat) (rest : Text), Stops rest → (v.pretty indent depth).length ≤ n →
      readValue (n + 1) (v.pretty indent depth ++ rest) = some (v, rest) := by
  -- An item stands one level deeper than its array and is shorter, so the fuel lasts for it.
  induction h with
  | null =>
      intro depth n rest hr _
      have letters : "null".toList.all isWordChar = true := by decide
      exact readValue_word (List.all_eq_true.mp letters) rfl hr n
  | bool b =>
      intro depth n rest hr _
      have letters : (word b).all isWordChar = true := by cases b <;> decide
      have value : ofWord? (word b) = some (bool b) := by cases b <;> rfl
      exact readValue_word (List.all_eq_true.mp letters) value hr n
  | number ht =>
      intro depth n rest hr _
      exact readValue_word (isWordChar_of_isNumber ht) (ofWord?_of_isNumber ht) hr n
  | string t =>
      intro depth n rest _ _
      obtain ⟨u, hu, content⟩ := readContent_quote t rest
      have quoted : skipBlanks ('"' :: u) = '"' :: u := skipBlanks_cons (by decide) u
      simp only [pretty, hu, readValue, quoted, if_true, content, Option.map_some]
  | @array items _ ih =>
      intro depth n rest _ hn
      refine readValue_array hi (fun v hv t ht => ?_) rest
      have shorter := length_lt_array indent depth hv
      obtain ⟨n, rfl⟩ : ∃ k, n = k + 1 := ⟨n - 1, by omega⟩
      exact ih v hv (depth + 1) n t ht (by omega)
  | @object members hd _ ih =>
      intro depth n rest _ hn
      refine readValue_object hi hd (fun m hm t ht => ?_) rest
      have shorter := length_lt_object indent depth hm
      obtain ⟨n, rfl⟩ : ∃ k, n = k + 1 := ⟨n - 1, by omega⟩
      exact ih m hm (depth + 1) n t ht (by omega)

/-- **The indented form of a well-formed value is read back to that value**, whatever white space
it is indented with. -/
theorem read_pretty (hi : ∀ c ∈ indent, isBlank c = true) {v : Json} (h : WellFormed v)
    (depth : Nat) : read (v.pretty indent depth) = some v := by
  have value := readValue_pretty hi h depth _ [] stops_nil (Nat.le_refl _)
  rw [List.append_nil] at value
  unfold read
  rw [value]
  rfl

end LineGrammar.Json
