import LineGrammar.Proofs.Grammar.Listing
import LineGrammar.Proofs.Verdict

/-! # Messages on one line

The message of an error that a source ends with has no newline, if the sampler says no more than one
line about the patterns that it is asked for (`Candid`).  A line that is no rule is quoted in its
message, and there is no newline between quotes.  A pattern is a part of a token, and a token has no
newline but in its line ending; so no pattern has one, and neither has the message about it
(`addSource_message`).

Two messages about lines that are no rules differ if the lines or their numbers do: the number ends
with a space, and a quoted text can be read back (`malformedRule_message_inj`). -/

namespace LineGrammar

/-! ### Messages -/

theorem Text.isDigit_of_mem_ofNat {n : Nat} {c : Char} (h : c ∈ ofNat n) : c.isDigit = true :=
  Nat.isDigit_of_mem_toDigits (by decide) (by decide) h

/-- The number at the start of a text, and what comes after the character that ends it. -/
def Text.readNumber (t : Text) : Option (Nat × Text) :=
  let digits := t.takeWhile Char.isDigit
  some (Nat.ofDigitChars 10 digits 0, t.drop (digits.length + 1))

theorem Text.readNumber_ofNat (n : Nat) (t : Text) :
    readNumber (ofNat n ++ [' '] ++ t) = some (n, t) := by
  have digits : (ofNat n ++ [' '] ++ t).takeWhile Char.isDigit = ofNat n := by
    rw [List.append_assoc, List.takeWhile_append_of_pos fun c => isDigit_of_mem_ofNat,
      List.singleton_append, List.takeWhile_cons_of_neg (by decide), List.append_nil]
  have value : Nat.ofDigitChars 10 (ofNat n) 0 = n := Nat.ofDigitChars_ten_toDigits
  have rest : (ofNat n ++ [' '] ++ t).drop ((ofNat n).length + 1) = t :=
    List.drop_left' (by rw [List.length_append, List.length_singleton])
  simp only [readNumber, digits, value, rest]

theorem prefixFree_ofNat : PrefixFree fun n => Text.ofNat n ++ [' '] :=
  .of_reader Text.readNumber_ofNat

theorem message_malformedRule (n : Nat) (content : Text) :
    (ConversionError.malformedRule n content).message =
      "Line ".toList ++ Text.ofNat n ++ " is not a rule (missing ': '): ".toList ++
        Text.quoted Text.isHidden content := rfl

theorem PatternError.message_eq (e : PatternError) :
    e.message = "Cannot generate a string for pattern '".toList ++ e.pattern ++ "': ".toList ++
      e.reason := rfl

theorem malformedRule_message_inj {n n' : Nat} {content content' : Text}
    (h : (ConversionError.malformedRule n content).message =
      (ConversionError.malformedRule n' content').message) : n = n' ∧ content = content' := by
  have middle : " is not a rule (missing ': '): ".toList =
      [' '] ++ "is not a rule (missing ': '): ".toList := by decide
  rw [message_malformedRule, message_malformedRule, middle] at h
  simp only [List.append_assoc] at h
  have numbered := List.append_cancel_left h
  rw [← List.append_assoc, ← List.append_assoc (Text.ofNat n')] at numbered
  obtain ⟨rfl, rest⟩ := prefixFree_ofNat numbered
  exact ⟨rfl, (Text.prefixFree_quoted Text.isHidden).injective (List.append_cancel_left rest)⟩

theorem newline_not_mem_quoted (hidden : Char → Bool) (t : Text) : '\n' ∉ Text.quoted hidden t :=
  Place.newline_not_mem_of_scan (balanced_quoted hidden t).outside

theorem newline_not_mem_malformedRule (n : Nat) (content : Text) :
    '\n' ∉ (ConversionError.malformedRule n content).message := by
  have number : '\n' ∉ Text.ofNat n := fun h => absurd (Text.isDigit_of_mem_ofNat h) (by decide)
  rw [message_malformedRule]
  simp only [List.mem_append, not_or]
  exact ⟨⟨⟨by decide, number⟩, by decide⟩, newline_not_mem_quoted _ content⟩

theorem PatternError.newline_not_mem_message {e : PatternError} (pattern : '\n' ∉ e.pattern)
    (reason : '\n' ∉ e.reason) : '\n' ∉ e.message := by
  rw [message_eq]
  simp only [List.mem_append, not_or]
  exact ⟨⟨⟨by decide, pattern⟩, by decide⟩, reason⟩

/-! ### Samplers that keep to the pattern -/

variable {σ : Type} [Sampler σ]

/-- Whatever the sampler `s` has been asked before, an error that it answers with repeats the pattern
that was asked for, and gives a reason without a newline. -/
def Candid (s : σ) : Prop :=
  ∀ (past : List (Text × Nat)) (pattern : Text) (count : Nat) (e : PatternError),
    (Sampler.sample (past.foldl (fun s q => (Sampler.sample s q.1 q.2).2) s) pattern count).1 =
      .error e → e.pattern = pattern ∧ '\n' ∉ e.reason

namespace Candid

variable {s : σ} {settings : Settings}

theorem of_sample (h : Candid s) {pattern : Text} {count : Nat} {e : PatternError}
    (he : (Sampler.sample s pattern count).1 = .error e) :
    e.pattern = pattern ∧ '\n' ∉ e.reason := h [] pattern count e he

theorem after (h : Candid s) (pattern : Text) (count : Nat) :
    Candid (Sampler.sample s pattern count).2 := fun past => h ((pattern, count) :: past)

theorem readToken (h : Candid s) (token : Text) :
    Candid (LineGrammar.readToken settings s token).2 := by
  unfold LineGrammar.readToken
  split
  · exact h
  · exact h.after _ _

theorem readTokens (h : Candid s) (tokens : List Text) :
    Candid (LineGrammar.readTokens settings s tokens).2 :=
  thread_keeps (fun _ token hs => hs.readToken token) h tokens

theorem afterLines (h : Candid s) (lines : List Text) :
    Candid (LineGrammar.afterLines settings s lines) :=
  thread_keeps (fun _ rule hs => hs.readTokens rule.tokens) h _

/-- What is wrong with the answer to a token is told by the pattern of the token and a reason without
a newline. -/
theorem of_fault (h : Candid s) {token : Text} {e : PatternError}
    (he : (LineGrammar.readToken settings s token).1.fault? settings.mode = some e) :
    e.pattern = (Text.chomp token).tail ∧ '\n' ∉ e.reason := by
  unfold LineGrammar.readToken at he
  cases hq : request? settings.mode settings.samples token with
  | none =>
      simp [hq, Reading.fault?] at he
  | some q =>
      obtain ⟨pattern, count⟩ := q
      rw [hq] at he
      rw [← pattern_of_request? hq]
      rcases answer : (Sampler.sample s pattern count).1 with e' | strings
      · simp only [answer, Reading.fault?] at he
        rw [← Option.some.inj he]
        exact h.of_sample answer
      · cases strings with
        | nil =>
            simp only [answer, Reading.fault?] at he
            split at he
            · have noStrings : '\n' ∉ "sampler returned no strings".toList := by decide
              rw [← Option.some.inj he, pattern_of_request? hq]
              exact ⟨rfl, noStrings⟩
            · cases he
        | cons string strings => simp [answer, Reading.fault?] at he

/-- A sampler with strings prepared says no more than that it has run out of them. -/
theorem of_prepared {answers : List (Except PatternError (List Text))}
    (h : ∀ answer ∈ answers, ∃ strings, answer = .ok strings) :
    Candid ({ answers } : Prepared) := by
  intro past
  induction past generalizing answers with
  | nil =>
      intro pattern count e he
      cases answers with
      | nil =>
          have runOut : '\n' ∉ "no answer is left".toList := by decide
          cases he
          exact ⟨rfl, runOut⟩
      | cons answer answers =>
          obtain ⟨strings, rfl⟩ := h answer List.mem_cons_self
          exact (nomatch he)
  | cons q past ih =>
      cases answers with
      | nil => exact ih h
      | cons answer answers => exact ih fun a ha => h a (List.mem_cons_of_mem _ ha)

end Candid

theorem exists_of_mem_lineRequests {settings : Settings} {lines : List Text} {q : Text × Nat}
    (h : q ∈ lineRequests settings lines) :
    ∃ line ∈ lines, ∃ rule, RuleLine.parse? line = some rule ∧
      q ∈ tokenRequests settings rule.tokens := by
  obtain ⟨rule, hr, hq⟩ := List.mem_flatMap.mp h
  obtain ⟨line, hl, hp⟩ := List.mem_filterMap.mp hr
  exact ⟨line, hl, rule, hp, hq⟩

/-- The tokens of a line of a source ask for patterns without newlines. -/
theorem newline_not_mem_of_mem_tokenRequests {settings : Settings} {source line : Text}
    (hl : line ∈ Text.lines source) {rule : RuleLine} (hr : RuleLine.parse? line = some rule)
    {tokens : List Text} (ht : tokens ⊆ rule.tokens) {q : Text × Nat}
    (hq : q ∈ tokenRequests settings tokens) : '\n' ∉ q.1 := by
  obtain ⟨token, hmem, asked⟩ := List.mem_filterMap.mp hq
  have pattern : q.1 = (Text.chomp token).tail := pattern_of_request? asked
  rw [pattern]
  exact fun h => (RuleLine.not_mem_chomp hl hr (ht hmem)).2 (List.mem_of_mem_tail h)

theorem newline_not_mem_of_mem_lineRequests {settings : Settings} {source : Text}
    {lines : List Text} (hl : lines ⊆ Text.lines source) {q : Text × Nat}
    (hq : q ∈ lineRequests settings lines) : '\n' ∉ q.1 := by
  obtain ⟨line, hmem, rule, hr, hq⟩ := exists_of_mem_lineRequests hq
  exact newline_not_mem_of_mem_tokenRequests (hl hmem) hr (List.Subset.refl _) hq

/-! ### Sources -/

namespace Workbench

variable (w : Workbench σ) (source : Text)

theorem newline_not_mem_of_mem_requests {q : Text × Nat} (hq : q ∈ w.requests source) :
    '\n' ∉ q.1 := by
  have verdict := w.verdict_addSource source
  generalize (w.addSource source).1 = result at verdict
  generalize w.requests source = requests at verdict hq
  cases verdict with
  | accepted _ => exact newline_not_mem_of_mem_lineRequests (List.Subset.refl _) hq
  | @malformed earlier later line cut _ _ =>
      have early : earlier ⊆ Text.lines source := by
        rw [cut]
        exact List.subset_append_left _ _
      exact newline_not_mem_of_mem_lineRequests early hq
  | @refused earlier later line rule before after token e cut _ hr split _ _ =>
      have early : earlier ⊆ Text.lines source := by
        rw [cut]
        exact List.subset_append_left _ _
      have hl : line ∈ Text.lines source := by simp [cut]
      have ht : before ++ [token] ⊆ rule.tokens := by
        rw [split, List.append_cons before token after]
        exact List.subset_append_left _ _
      rcases List.mem_append.mp hq with hq | hq
      · exact newline_not_mem_of_mem_lineRequests early hq
      · exact newline_not_mem_of_mem_tokenRequests hl hr ht hq

theorem newline_not_mem_of_addSource (candid : Candid w.sampler) {e : ConversionError}
    (h : (w.addSource source).1 = .error e) : '\n' ∉ e.message := by
  have verdict := w.verdict_addSource source
  rw [h] at verdict
  generalize w.requests source = requests at verdict
  cases verdict with
  | malformed _ _ _ => exact newline_not_mem_malformedRule _ _
  | @refused earlier _ line rule before after token e cut _ hr split _ fault =>
      have hl : line ∈ Text.lines source := by simp [cut]
      have ht : token ∈ rule.tokens := by simp [split]
      have inside : '\n' ∉ Text.chomp token := (RuleLine.not_mem_chomp hl hr ht).2
      obtain ⟨pattern, reason⟩ := ((candid.afterLines earlier).readTokens before).of_fault fault
      refine PatternError.newline_not_mem_message ?_ reason
      rw [pattern]
      exact fun hm => inside (List.mem_of_mem_tail hm)

/-- **Messages are on one line and say which line is meant.**  In any mode, if the sampler's errors
repeat the pattern that was asked for and give a reason without a newline, the message of an error
that a source ends with has no newline.

No pattern that the sampler is asked for has a newline, and neither has the message about a line that
is no rule, whatever the line is.  Two such messages are the same only if the numbers of the lines and
the lines are. -/
theorem addSource_message :
    (Candid w.sampler → ∀ e, (w.addSource source).1 = .error e → '\n' ∉ e.message) ∧
      (∀ q ∈ w.requests source, '\n' ∉ q.1) ∧
      (∀ n content, '\n' ∉ (ConversionError.malformedRule n content).message) ∧
      ∀ n n' content content', (ConversionError.malformedRule n content).message =
          (ConversionError.malformedRule n' content').message →
        n = n' ∧ content = content' :=
  ⟨fun candid _ => w.newline_not_mem_of_addSource source candid,
    fun _ => w.newline_not_mem_of_mem_requests source, newline_not_mem_malformedRule,
    fun _ _ _ _ => malformedRule_message_inj⟩

/-- The second pattern is refused: behind one with a carriage return, it ends with a backslash and an
`n`.  Lines that differ in such an ending only have different messages. -/
theorem addSource_message_backslash :
    let source := "a: rP\rQ\nb: rR\\n\r\n".toList
    let w : Workbench Prepared := { settings := { mode := .single }, sampler := ⟨[.ok [['1']]]⟩ }
    Candid w.sampler ∧
      ∃ e : PatternError, (w.addSource source).1 = .error (.pattern e) ∧
        e.pattern = "R\\n".toList ∧ '\n' ∉ (ConversionError.pattern e).message ∧
        w.requests source = [("P\rQ".toList, 1), (e.pattern, 1)] ∧ '\n' ∉ e.pattern ∧
        '\n' ∉ (ConversionError.malformedRule 3 "c\n".toList).message ∧
        (ConversionError.malformedRule 3 "c\n".toList).message ≠
          (ConversionError.malformedRule 3 "c\\n".toList).message := by
  intro source w
  let e : PatternError := { pattern := "R\\n".toList, reason := "no answer is left".toList }
  have candid : Candid w.sampler := .of_prepared (by simp)
  have ends : (w.addSource source).1 = .error (.pattern e) := by decide
  have asked : w.requests source = [("P\rQ".toList, 1), (e.pattern, 1)] := by decide
  obtain ⟨oneLine, patterns, malformed, inj⟩ := w.addSource_message source
  refine ⟨candid, e, ends, rfl, oneLine candid _ ends, asked, patterns (e.pattern, 1) ?_,
    malformed 3 _, fun same => ?_⟩
  · simp [asked]
  · exact absurd (inj _ _ _ _ same).2 (by decide)

end Workbench
end LineGrammar
