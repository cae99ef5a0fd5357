import LineGrammar.Proofs.Requests
import LineGrammar.Proofs.Text.Lines

/-! # Line ends

A line may end in a newline, in carriage returns and a newline, or with the source.  Nothing strips
these ends from a line: the colon and the space that end the label are looked for in front of them,
and they stay in the last token, which is rid of them before it is looked at.  So a line is compiled
as it is without its line ending (`compileLine_chomp`), and sources that differ in their line ends
only cannot be told apart (`addSource_lineEnds`). -/

namespace LineGrammar

open Step

namespace Text

/-- The second text is the first one with carriage returns directly in front of some newlines. -/
inductive CarriageReturns : Text → Text → Prop
  | nil : CarriageReturns [] []
  | cons (c : Char) {s t : Text} : CarriageReturns s t → CarriageReturns (c :: s) (c :: t)
  | newline (n : Nat) {s t : Text} :
      CarriageReturns s t → CarriageReturns ('\n' :: s) (List.replicate n '\r' ++ '\n' :: t)

/-- The second text is the first one with other line ends: with carriage returns directly in front
of some newlines, and perhaps with a newline after a last line that has none. -/
inductive OtherLineEnds (s : Text) : Text → Prop
  | returns {t : Text} : CarriageReturns s t → OtherLineEnds s t
  | closed {t : Text} :
      CarriageReturns s t → s ≠ [] → s.getLast? ≠ some '\n' → OtherLineEnds s (t ++ ['\n'])

theorem CarriageReturns.append_newline {s t : Text} (h : CarriageReturns s t) :
    CarriageReturns (s ++ ['\n']) (t ++ ['\n']) := by
  induction h with
  | nil => exact .cons '\n' .nil
  | cons c _ ih => exact .cons c ih
  | newline n _ ih =>
      rw [List.append_assoc]
      exact .newline n ih

theorem map_chomp_lines_cons (c : Char) {s t : Text}
    (h : (lines s).map chomp = (lines t).map chomp) :
    (lines (c :: s)).map chomp = (lines (c :: t)).map chomp := by
  by_cases hc : c = '\n'
  · rw [hc, lines_newline, lines_newline, List.map_cons, List.map_cons, h]
  · unfold lines
    rw [if_neg hc, if_neg hc]
    cases hs : lines s with
    | nil =>
        rw [hs, List.map_nil, eq_comm, List.map_eq_nil_iff] at h
        rw [h]
    | cons l ls =>
        cases ht : lines t with
        | nil =>
            rw [hs, ht] at h
            simp at h
        | cons m ms =>
            rw [hs, ht, List.map_cons, List.map_cons, List.cons.injEq] at h
            rw [List.map_cons, List.map_cons, chomp_cons_congr c h.1, h.2]

theorem chomp_returns (n : Nat) : chomp (List.replicate n '\r' ++ ['\n']) = [] := by
  refine chomp_append [] fun c hc => ?_
  rcases List.mem_append.mp hc with h | h
  · rw [List.eq_of_mem_replicate h]
    rfl
  · rw [List.mem_singleton.mp h]
    rfl

/-- Carriage returns in front of a newline belong to the line that it ends. -/
theorem lines_returns (n : Nat) (t : Text) :
    lines (List.replicate n '\r' ++ '\n' :: t) =
      (List.replicate n '\r' ++ ['\n']) :: lines t := by
  induction n with
  | zero => rfl
  | succ n ih =>
      rw [List.replicate_succ, List.cons_append, lines_cons (by decide) ih, List.cons_append]

theorem CarriageReturns.map_chomp_lines {s t : Text} (h : CarriageReturns s t) :
    (lines t).map chomp = (lines s).map chomp := by
  induction h with
  | nil => rfl
  | cons c _ ih => exact map_chomp_lines_cons c ih
  | newline n _ ih =>
      rw [lines_returns, lines_newline, List.map_cons, List.map_cons, chomp_returns, ih]
      rfl

/-- A newline at the very end belongs to the last line. -/
theorem map_chomp_lines_append_newline {s : Text} (hs : s ≠ []) (hl : s.getLast? ≠ some '\n') :
    (lines (s ++ ['\n'])).map chomp = (lines s).map chomp := by
  induction s with
  | nil => exact absurd rfl hs
  | cons c t ih =>
      by_cases ht : t = []
      · subst ht
        have hc : c ≠ '\n' := by simpa using hl
        have single : lines [c] = [[c]] := by simp [lines, hc]
        have ended : chomp ([c] ++ ['\n']) = chomp [c] :=
          chomp_append [c] (by simp [isLineEnd])
        rw [List.singleton_append, lines_cons hc (lines_newline []), single]
        exact congrArg (· :: []) ended
      · rw [List.getLast?_cons_of_ne_nil ht] at hl
        exact map_chomp_lines_cons c (ih ht hl)

theorem OtherLineEnds.map_chomp_lines {s t : Text} (h : OtherLineEnds s t) :
    (lines t).map chomp = (lines s).map chomp := by
  cases h with
  | returns h => exact h.map_chomp_lines
  | closed h hs hl =>
      rw [h.append_newline.map_chomp_lines, map_chomp_lines_append_newline hs hl]

end Text

/-! ### Lines with other ends -/

theorem splitLabel_of_not_mem {t : Text} (h : ' ' ∉ t) : splitLabel t = none := by
  fun_induction splitLabel t with
  | case1 => rfl
  | case2 c => rfl
  | case3 c d t hc => simp [hc.2] at h
  | case4 c d t hc ih =>
      rw [ih (List.not_mem_of_not_mem_cons h)]
      rfl

/-- No label ends in what comes without a space at the end of a line. -/
theorem splitLabel_append (t : Text) {e : Text} (he : ' ' ∉ e) :
    splitLabel (t ++ e) = (splitLabel t).map fun (before, body) => (before, body ++ e) := by
  fun_induction splitLabel t with
  | case1 => exact splitLabel_of_not_mem he
  | case2 c =>
      cases e with
      | nil => rfl
      | cons d e =>
          have hd : ¬ (c = ':' ∧ d = ' ') := fun h => he (h.2 ▸ List.mem_cons_self)
          rw [List.singleton_append, splitLabel, if_neg hd, splitLabel_of_not_mem he]
          rfl
  | case3 c d t hc =>
      rw [List.cons_append, List.cons_append, splitLabel, if_pos hc]
      rfl
  | case4 c d t hc ih =>
      rw [List.cons_append, List.cons_append, splitLabel, if_neg hc, ← List.cons_append, ih,
        Option.map_map, Option.map_map]
      rfl

/-- Only the last token takes what comes without a space at the end of a line. -/
theorem map_chomp_splitOn_append (body : Text) {e : Text}
    (he : ∀ c ∈ e, Text.isLineEnd c = true) :
    ((body ++ e).splitOn ' ').map Text.chomp = (body.splitOn ' ').map Text.chomp := by
  induction body with
  | nil =>
      have single : e.splitOn ' ' = [e] := List.splitOn_eq_singleton fun h =>
        absurd (he ' ' h) (by decide)
      rw [List.nil_append, single]
      exact congrArg (· :: []) (Text.chomp_append [] he)
  | cons c body ih =>
      rw [List.cons_append, List.splitOn_cons_eq_if_modifyHead, List.splitOn_cons_eq_if_modifyHead]
      by_cases hc : c = ' '
      · rw [if_pos (by simpa using hc), if_pos (by simpa using hc)]
        exact congrArg (Text.chomp [] :: ·) ih
      · obtain ⟨w, ws, hw⟩ := List.exists_cons_of_ne_nil (List.splitOn_ne_nil ' ' (body ++ e))
        obtain ⟨v, vs, hv⟩ := List.exists_cons_of_ne_nil (List.splitOn_ne_nil ' ' body)
        rw [hw, hv, List.map_cons, List.map_cons, List.cons.injEq] at ih
        rw [if_neg (by simpa using hc), if_neg (by simpa using hc), hw, hv, List.modifyHead_cons,
          List.modifyHead_cons, List.map_cons, List.map_cons, Text.chomp_cons_congr c ih.1, ih.2]

namespace RuleLine

def chomped (r : RuleLine) : RuleLine := { r with tokens := r.tokens.map Text.chomp }

theorem map_chomped_parse?_append (line : Text) {e : Text}
    (he : ∀ c ∈ e, Text.isLineEnd c = true) :
    (parse? (line ++ e)).map chomped = (parse? line).map chomped := by
  have space : ' ' ∉ e := fun h => absurd (he ' ' h) (by decide)
  unfold parse?
  rw [splitLabel_append line space]
  cases splitLabel line with
  | none => rfl
  | some cut =>
      obtain ⟨before, body⟩ := cut
      by_cases hb : Text.trim before = []
      · simp [hb]
      · simp [hb, chomped, map_chomp_splitOn_append body he]

end RuleLine

variable {σ : Type} [Sampler σ] (settings : Settings)

theorem ofToken_chomp (mode : Mode) (samples : Nat) (token : Text) :
    Part.ofToken mode samples (Text.chomp token) = Part.ofToken mode samples token := by
  unfold Part.ofToken
  rw [Text.chomp_chomp]

theorem ofTokens_map_chomp (mode : Mode) (samples : Nat) (tokens : List Text) :
    Part.ofTokens mode samples (tokens.map Text.chomp) = Part.ofTokens mode samples tokens := by
  induction tokens with
  | nil => rfl
  | cons token tokens ih =>
      rw [List.map_cons, Part.ofTokens, Part.ofTokens, ofToken_chomp, ih]

/-- The end of a line is not told from what the line is compiled to. -/
theorem compileLine_append (n : Nat) (line : Text) {e : Text}
    (he : ∀ c ∈ e, Text.isLineEnd c = true) :
    compileLine settings n (line ++ e) = compileLine settings n line := by
  have parsed := RuleLine.map_chomped_parse?_append line he
  cases hl : RuleLine.parse? line with
  | none =>
      rw [hl, Option.map_none, Option.map_eq_none_iff] at parsed
      rw [compileLine_of_none settings n parsed, compileLine_of_none settings n hl,
        Text.chomp_append line he]
  | some rule =>
      rw [hl, Option.map_some, Option.map_eq_some_iff] at parsed
      obtain ⟨rule', hr, same⟩ := parsed
      obtain ⟨label, tokens⟩ := (RuleLine.mk.injEq _ _ _ _).mp same
      rw [compileLine_of_some settings n hr, compileLine_of_some settings n hl, label,
        ← ofTokens_map_chomp _ _ rule'.tokens, tokens, ofTokens_map_chomp]

theorem compileLine_chomp (n : Nat) (line : Text) :
    compileLine settings n (Text.chomp line) = compileLine settings n line := by
  obtain ⟨e, hl, he⟩ := Text.exists_chomp_append line
  conv => rhs; rw [hl, compileLine_append settings n _ he]

/-- Sources with the same lines but for their ends are compiled in the same way. -/
theorem compile_congr {s t : Text}
    (h : (Text.lines t).map Text.chomp = (Text.lines s).map Text.chomp) (g : Grammar) :
    compile settings t g = compile settings s g := by
  have ends : List.Forall₂ (fun l m => Text.chomp l = Text.chomp m) (Text.lines t)
      (Text.lines s) := by
    rw [← List.forall₂_map_left_iff (f := Text.chomp) (R := fun l m => l = Text.chomp m),
      ← List.forall₂_map_right_iff (f := Text.chomp) (R := Eq), List.forall₂_eq_eq_eq]
    exact h
  have same : ∀ l m, Text.chomp l = Text.chomp m →
      ∀ n, compileLine settings n l = compileLine settings n m := by
    intro l m hlm n
    rw [← compileLine_chomp, hlm, compileLine_chomp]
  exact compileLines_congr (ends.imp same) 1 g

/-! ### Sources -/

namespace Workbench

variable (w : Workbench σ)

/-- **Line ends do not matter.**  Sources that differ in their line ends only have the same result,
with the same error if there is one, leave the same grammar and the same sampler, and ask the
sampler for the same on the way. -/
theorem addSource_lineEnds {s t : Text} (h : Text.OtherLineEnds s t) :
    w.addSource t = w.addSource s ∧ w.requests t = w.requests s := by
  have same := compile_congr w.settings h.map_chomp_lines w.grammar
  rw [addSource_eq, addSource_eq, requests_eq, requests_eq, same]
  exact ⟨rfl, rfl⟩

/-- Two carriage returns in front of a newline, and a newline after a last line that is no rule. -/
theorem addSource_lineEnds_malformed :
    let w : Workbench Prepared :=
      { settings := { mode := .multi }, sampler := ⟨[.ok [['1']]]⟩ }
    let s := "a: rP\nb".toList
    let t := "a: rP\r\r\nb\n".toList
    Text.OtherLineEnds s t ∧ (w.addSource t).1 = .error (.malformedRule 2 ['b']) ∧
      w.requests t = [(['P'], 15)] := by
  intro w s t
  have returns : Text.CarriageReturns s "a: rP\r\r\nb".toList :=
    .cons 'a' <| .cons ':' <| .cons ' ' <| .cons 'r' <| .cons 'P' <| .newline 2 <| .cons 'b' .nil
  have ends : Text.OtherLineEnds s t := .closed returns (by decide) (by decide)
  obtain ⟨result, requests⟩ := w.addSource_lineEnds ends
  refine ⟨ends, ?_, ?_⟩
  · rw [result]
    decide
  · rw [requests]
    decide

end Workbench
end LineGrammar
