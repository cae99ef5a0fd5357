import LineGrammar.Proofs.RuleLine
import LineGrammar.Proofs.Text.Lines
import Mathlib.Data.List.DropRight
import Mathlib.Data.List.TakeWhile

/-! # The format of lines

A source is walked line by line, and its lines are numbered from 1 (`compile_eq_foldlM`).  They are
what the source is cut into, and nothing of it is lost.  Which of them are rules, what a rule is
made of, and what is reported of the others is told by the text of the line alone
(`numberedLines_format`): the text before the first separator, the separator and the tokens with
spaces between them are the line again. -/

namespace LineGrammar

/-! ### Numbered lines -/

/-- The lines of a source with their numbers, which start at 1. -/
def numberedLines (source : Text) : List (Text × Nat) := (Text.lines source).zipIdx 1

/-- The grammar `g` with a numbered line added. -/
def addLine (settings : Settings) (g : Grammar) (line : Text × Nat) : Step Grammar := do
  let (label, alternatives) ← compileLine settings line.2 line.1
  return g.extend label alternatives

theorem compileLines_eq_foldlM (settings : Settings) (n : Nat) (lines : List Text) (g : Grammar) :
    compileLines settings n lines g = (lines.zipIdx n).foldlM (addLine settings) g := by
  induction lines generalizing n g with
  | nil => rfl
  | cons line lines ih =>
      have first : addLine settings g (line, n) = compileLine settings n line >>= fun added =>
          pure (g.extend added.1 added.2) := rfl
      rw [List.zipIdx_cons, List.foldlM_cons, first, bind_assoc]
      unfold compileLines
      congr 1
      funext added
      rw [pure_bind]
      exact ih (n + 1) (g.extend added.1 added.2)

theorem compile_eq_foldlM (settings : Settings) (source : Text) (g : Grammar) :
    compile settings source g = (numberedLines source).foldlM (addLine settings) g :=
  compileLines_eq_foldlM settings 1 (Text.lines source) g

theorem map_fst_numberedLines (source : Text) :
    (numberedLines source).map Prod.fst = Text.lines source := List.zipIdx_map_fst 1 _

theorem map_snd_numberedLines (source : Text) :
    (numberedLines source).map Prod.snd = List.range' 1 (numberedLines source).length := by
  unfold numberedLines
  rw [List.zipIdx_map_snd, List.length_zipIdx]

theorem mem_lines_of_mem_numberedLines {source line : Text} {n : Nat}
    (h : (line, n) ∈ numberedLines source) : line ∈ Text.lines source := by
  rw [← map_fst_numberedLines]
  exact List.mem_map_of_mem h

namespace Text

theorem dropEndWhile_eq_nil_iff {p : Char → Bool} {t : Text} :
    dropEndWhile p t = [] ↔ ∀ c ∈ t, p c = true := List.rdropWhile_eq_nil_iff

theorem trimWhile_eq_nil_iff {p : Char → Bool} {t : Text} :
    trimWhile p t = [] ↔ ∀ c ∈ t, p c = true := by
  unfold trimWhile
  rw [dropEndWhile_eq_nil_iff]
  constructor
  · intro h c hc
    rw [← List.takeWhile_append_dropWhile (p := p) (l := t), List.mem_append] at hc
    exact hc.elim (List.all_eq_true.mp List.all_takeWhile c) (h c)
  · intro h c hc
    exact h c ((List.dropWhile_suffix p).subset hc)

theorem trim_ne_nil_iff {t : Text} : trim t ≠ [] ↔ ∃ c ∈ t, isBlank c = false := by
  unfold trim
  rw [ne_eq, trimWhile_eq_nil_iff]
  push Not
  simp only [Bool.not_eq_true]

end Text

/-! ### Tokens -/

/-- What stands in a token that is not the last one stands in front of the last character of what
the tokens make up. -/
theorem mem_dropLast_intercalate {x : Text} (hx : x ≠ []) {ts : List Text} {t : Text}
    (ht : t ∈ ts.dropLast) {c : Char} (hc : c ∈ t) : c ∈ (x.intercalate ts).dropLast := by
  induction ts with
  | nil => cases ht
  | cons a ts ih =>
      cases ts with
      | nil => cases ht
      | cons b ts =>
          have more : x ++ x.intercalate (b :: ts) ≠ [] := List.append_ne_nil_of_left_ne_nil hx _
          rw [List.intercalate_cons_cons, List.append_assoc, List.dropLast_append_of_ne_nil more,
            List.mem_append]
          rcases List.mem_cons.mp ht with rfl | ht
          · exact .inl hc
          · have later : c ∈ (x.intercalate (b :: ts)).dropLast := ih ht
            have some : x.intercalate (b :: ts) ≠ [] :=
              List.ne_nil_of_mem (List.mem_of_mem_dropLast later)
            rw [List.dropLast_append_of_ne_nil some, List.mem_append]
            exact .inr (.inr later)

namespace RuleLine

/-! ### What is read of a line -/

variable {source line : Text} {n : Nat}

/-- A line is a rule exactly if there is something other than blanks before its first separator. -/
theorem exists_parse_eq_ok_iff :
    (∃ rule, parse n line = .ok rule) ↔
      ∃ before body, line = before ++ separator ++ body ∧ ¬ separator <:+: before ∧
        ∃ c ∈ before, Text.isBlank c = false := by
  have parsed : (∃ rule, parse n line = .ok rule) ↔ ∃ rule, parse? line = some rule := by
    unfold parse
    cases parse? line <;> simp
  rw [parsed]
  simp only [parse?_eq_some_iff, Text.trim_ne_nil_iff]
  constructor
  · rintro ⟨rule, before, body, cut, first, some, -⟩
    exact ⟨before, body, cut, first, some⟩
  · rintro ⟨before, body, cut, first, some⟩
    exact ⟨_, before, body, cut, first, some, rfl⟩

/-- The tokens of a rule lose nothing of its line. -/
theorem of_parse_eq_ok (hl : line ∈ Text.lines source) {rule : RuleLine}
    (h : parse n line = .ok rule) :
    ∃ before, ¬ separator <:+: before ∧ rule.label = Text.trim before ∧
      before ++ separator ++ [' '].intercalate rule.tokens = line ∧
      (∀ token ∈ rule.tokens, ' ' ∉ token) ∧ ∀ token ∈ rule.tokens.dropLast, '\n' ∉ token := by
  have parsed : parse? line = some rule := by
    unfold parse at h
    cases hp : parse? line with
    | none => rw [hp] at h; cases h
    | some rule' => rw [hp] at h; exact congrArg some (Except.ok.inj h)
  obtain ⟨before, body, cut, first, -, rfl⟩ := parse?_eq_some_iff.mp parsed
  have whole : [' '].intercalate (body.splitOn ' ') = body := List.intercalate_splitOn ' '
  have last : '\n' ∉ body.dropLast := by
    intro inside
    have some : body ≠ [] := List.ne_nil_of_mem (List.mem_of_mem_dropLast inside)
    apply (Text.newline_last_of_mem_lines hl).2
    rw [cut, List.dropLast_append_of_ne_nil some]
    exact List.mem_append_right _ inside
  refine ⟨before, first, rfl, ?_, fun token ht space => ?_, fun token ht newline => last ?_⟩
  · rw [whole, cut]
  · exact (mem_of_mem_splitOn ht space).2 rfl
  · rw [← whole]
    exact mem_dropLast_intercalate (List.cons_ne_nil ' ' []) ht newline

/-- A line that is no rule is reported with its number, without the line ending. -/
theorem of_parse_eq_error {e : ConversionError} (h : parse n line = .error e) :
    ∃ content ending, e = .malformedRule n content ∧ line = content ++ ending ∧
      (∀ c ∈ ending, Text.isLineEnd c = true) ∧
      ∀ c, content.getLast? = some c → Text.isLineEnd c = false := by
  unfold parse at h
  cases hp : parse? line with
  | some rule => rw [hp] at h; cases h
  | none =>
      rw [hp] at h
      obtain ⟨ending, cut, ends⟩ := Text.exists_chomp_append line
      exact ⟨Text.chomp line, ending, (Except.error.inj h).symm, cut, ends,
        fun _ => Text.getLast?_dropEndWhile⟩

/-- **The format of lines.**  Compiling a source walks its numbered lines.  They make up the source,
have the numbers from 1 on, and all but the last one end in a newline.  None of them is empty, and
there is no newline in them but at the end.

A line is a rule exactly if it has a separator and something other than blanks stands before the
first one.  Then the label is the text before that, trimmed; no token has a space in it, only the
last one may have a newline, and with spaces between them they are what follows the separator.  Any
other line is reported with its number, without all its carriage returns and newlines at the end. -/
theorem numberedLines_format (source : Text) :
    (∀ settings g, compile settings source g =
      (numberedLines source).foldlM (addLine settings) g) ∧
      ((numberedLines source).map Prod.fst).flatten = source ∧
      (numberedLines source).map Prod.snd = List.range' 1 (numberedLines source).length ∧
      (∀ line ∈ ((numberedLines source).map Prod.fst).dropLast, line.getLast? = some '\n') ∧
      ∀ line n, (line, n) ∈ numberedLines source →
        line ≠ [] ∧ '\n' ∉ line.dropLast ∧
        ((∃ rule, parse n line = .ok rule) ↔
          ∃ before body, line = before ++ separator ++ body ∧ ¬ separator <:+: before ∧
            ∃ c ∈ before, Text.isBlank c = false) ∧
        (∀ rule, parse n line = .ok rule →
          ∃ before, ¬ separator <:+: before ∧ rule.label = Text.trim before ∧
            before ++ separator ++ [' '].intercalate rule.tokens = line ∧
            (∀ token ∈ rule.tokens, ' ' ∉ token) ∧
            ∀ token ∈ rule.tokens.dropLast, '\n' ∉ token) ∧
        ∀ e, parse n line = .error e →
          ∃ content ending, e = .malformedRule n content ∧ line = content ++ ending ∧
            (∀ c ∈ ending, Text.isLineEnd c = true) ∧
            ∀ c, content.getLast? = some c → Text.isLineEnd c = false := by
  refine ⟨fun settings g => compile_eq_foldlM settings source g, ?whole,
    map_snd_numberedLines source, ?ended, fun line n h => ?line⟩
  case whole =>
    rw [map_fst_numberedLines, Text.flatten_lines]
  case ended =>
    rw [map_fst_numberedLines]
    exact fun line h => Text.getLast?_of_mem_dropLast_lines h
  case line =>
    have hl : line ∈ Text.lines source := mem_lines_of_mem_numberedLines h
    obtain ⟨some, last⟩ := Text.newline_last_of_mem_lines hl
    exact ⟨some, last, exists_parse_eq_ok_iff, fun rule hr => of_parse_eq_ok hl hr,
      fun e he => of_parse_eq_error he⟩

/-- A rule with a separator in its body and two spaces next to each other, and after it a line with
a blank label that a later separator does not rescue. -/
theorem numberedLines_format_blank :
    let source := "a: b: c  d \n : e: f\r\n".toList
    let rule := "a: b: c  d \n".toList
    let other := " : e: f\r\n".toList
    ((rule, 1) ∈ numberedLines source ∧ (other, 2) ∈ numberedLines source) ∧
      (∃ r, parse 1 rule = .ok r ∧ r.tokens.length = 5 ∧ ∀ token ∈ r.tokens, ' ' ∉ token) ∧
      parse 2 other = .error (.malformedRule 2 " : e: f".toList) ∧
      ∃ ending, other = " : e: f".toList ++ ending ∧ ∀ c ∈ ending, Text.isLineEnd c = true := by
  intro source rule other
  have inside : (rule, 1) ∈ numberedLines source ∧ (other, 2) ∈ numberedLines source := by decide
  obtain ⟨-, -, -, -, each⟩ := numberedLines_format source
  obtain ⟨-, -, accepted, made, -⟩ := each rule 1 inside.1
  obtain ⟨-, -, -, -, reported⟩ := each other 2 inside.2
  have refused : parse 2 other = .error (.malformedRule 2 " : e: f".toList) := by decide
  refine ⟨inside, ?_, refused, ?_⟩
  · have cut : rule = ['a'] ++ separator ++ "b: c  d \n".toList := by decide
    obtain ⟨r, hr⟩ := accepted.mpr ⟨['a'], _, cut, by decide, 'a', by decide, by decide⟩
    obtain ⟨-, -, -, -, spaceless, -⟩ := made r hr
    have tokens : parse 1 rule = .ok ⟨['a'], [['b', ':'], ['c'], [], ['d'], ['\n']]⟩ := by decide
    obtain rfl := Except.ok.inj (hr.symm.trans tokens)
    exact ⟨_, hr, rfl, spaceless⟩
  · obtain ⟨content, ending, same, whole, ends, -⟩ := reported _ refused
    obtain ⟨-, rfl⟩ := (ConversionError.malformedRule.injEq _ _ _ _).mp same
    exact ⟨ending, whole, ends⟩

end RuleLine
end LineGrammar
