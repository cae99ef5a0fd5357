import LineGrammar.Proofs.Text.EscapedNewline
import LineGrammar.Proofs.Splitting
import LineGrammar.Proofs.Writing

/-! # Spacing keeps the text

In a spaced alternative the symbols are where they were, at twice their place, with a space between
any two of them.  A nonterminal is as it was, and a terminal has its newlines in place and nothing
else changed.  So the contents of a spaced alternative, one after another, are the contents of the
symbols with single spaces between them (`text_spaced`).

A line whose tokens all stand between double quotes has just the contents of these tokens as its
symbols, whatever the mode (`compileLine_quotedLine`).  With spacing its text is therefore its body
without the quotes around the tokens, with the spaces in place (`spacing_keeps_text`). -/

namespace LineGrammar

/-- The text that a symbol holds. -/
def Symbol.content : Symbol → Text
  | terminal content => content
  | nonterminal name => name

/-- The contents of the symbols of an alternative, one after another. -/
def Alternative.text (a : Alternative) : Text := a.flatMap Symbol.content

theorem Symbol.unescaped_unescaped (s : Symbol) : s.unescaped.unescaped = s.unescaped := by
  cases s with
  | terminal content => exact congrArg terminal (unescapeNewlines_unescapeNewlines content)
  | nonterminal name => rfl

theorem map_intersperse {α β : Type} (f : α → β) (x : α) (as : List α) :
    (as.intersperse x).map f = (as.map f).intersperse (f x) := by
  fun_induction List.intersperse x as with
  | case1 => rfl
  | case2 a => rfl
  | case3 a as has ih =>
      obtain ⟨b, bs, rfl⟩ := List.exists_cons_of_ne_nil has
      simp only [List.map_cons, List.intersperse_cons_cons] at ih ⊢
      rw [ih]

namespace Alternative

variable {a : Alternative}

/-! ### Places -/

theorem spaced_of_length_lt (h : a.length < 2) : spaced a = a := if_pos (Nat.le_of_lt_succ h)

section Spaced

variable (h : 2 ≤ a.length)

include h

theorem spaced_of_le_length :
    spaced a = (a.map Symbol.unescaped).intersperse (.terminal [' ']) :=
  if_neg (Nat.not_le.mpr h)

theorem length_spaced : (spaced a).length = 2 * a.length - 1 := by
  rw [spaced_of_le_length h, List.length_intersperse, List.length_map]

theorem getElem?_spaced_even (i : Nat) : (spaced a)[2 * i]? = a[i]?.map Symbol.unescaped := by
  rw [spaced_of_le_length h, List.getElem?_intersperse_two_mul, List.getElem?_map]

theorem getElem?_spaced_odd {i : Nat} (hi : i + 1 < a.length) :
    (spaced a)[2 * i + 1]? = some (.terminal [' ']) := by
  rw [spaced_of_le_length h, List.getElem?_intersperse_two_mul_add_one (by simpa using hi)]

/-- Unescaping the symbols once more changes nothing. -/
theorem map_unescaped_spaced : (spaced a).map Symbol.unescaped = spaced a := by
  have again : Symbol.unescaped ∘ Symbol.unescaped = Symbol.unescaped :=
    funext Symbol.unescaped_unescaped
  rw [spaced_of_le_length h, map_intersperse, List.map_map, again]
  rfl

theorem not_infix_of_mem_spaced {content : Text} (hc : .terminal content ∈ spaced a) :
    ¬ escapedNewline <:+: content := by
  rw [← map_unescaped_spaced h] at hc
  obtain ⟨s, -, hs⟩ := List.mem_map.mp hc
  cases s with
  | terminal content' =>
      obtain rfl : unescapeNewlines content' = content := Symbol.terminal.inj hs
      exact not_infix_unescapeNewlines content'
  | nonterminal name => exact (nomatch hs)

/-- The text of a spaced alternative has single spaces between the contents of the symbols. -/
theorem text_spaced :
    text (spaced a) = [' '].intercalate (a.map fun s => s.unescaped.content) := by
  rw [spaced_of_le_length h, text, List.flatMap_def, map_intersperse, List.map_map]
  rfl

end Spaced

end Alternative

/-! ### Lines of quoted tokens -/

/-- A line with the text `before` before its first separator, behind it tokens between double quotes
with the contents given, and then a line ending. -/
structure QuotedLine where
  before : Text
  contents : List Text
  ending : Text
  separator_not_infix : ¬ separator <:+: before
  trim_ne_nil : Text.trim before ≠ []
  space_not_mem : ∀ content ∈ contents, ' ' ∉ content
  isLineEnd : ∀ c ∈ ending, Text.isLineEnd c = true

namespace QuotedLine

variable (q : QuotedLine)

def label : Text := Text.trim q.before

/-- What stands behind the separator. -/
def body : Text := [' '].intercalate (q.contents.map fun content => '"' :: (content ++ ['"']))

def line : Text := q.before ++ separator ++ q.body ++ q.ending

def symbols : Alternative := q.contents.map .terminal

end QuotedLine

variable {q : QuotedLine} {settings : Settings}

theorem parse?_quotedLine (some : q.contents ≠ []) :
    RuleLine.parse? (q.before ++ separator ++ q.body) =
      .some { label := q.label, tokens := q.symbols.map Symbol.written } := by
  have tokens : q.body.splitOn ' ' = q.symbols.map Symbol.written := by
    unfold QuotedLine.body QuotedLine.symbols
    rw [List.splitOn_intercalate, List.map_map]
    · rfl
    · intro token ht
      obtain ⟨content, hc, rfl⟩ := List.mem_map.mp ht
      simp [q.space_not_mem content hc]
    · exact mt List.map_eq_nil_iff.mp some
  rw [RuleLine.parse?_eq_some_iff]
  exact ⟨q.before, q.body, rfl, q.separator_not_infix, q.trim_ne_nil, by rw [tokens]; rfl⟩

/-- A line of quoted tokens is compiled to their contents, and the sampler is not asked. -/
theorem compileLine_quotedLine (some : q.contents ≠ []) (n : Nat) :
    compileLine settings n q.line =
      pure (q.label, [if settings.spacing then Alternative.spaced q.symbols else q.symbols]) := by
  have terminals : ∀ s ∈ q.symbols, ∃ content, s = .terminal content := by
    intro s hs
    obtain ⟨content, -, rfl⟩ := List.mem_map.mp hs
    exact ⟨content, rfl⟩
  have legible : ∀ s ∈ q.symbols, s.IsLegible := by
    intro s hs
    obtain ⟨content, rfl⟩ := terminals s hs
    exact trivial
  have unmarked : settings.mode ≠ .plain → ∀ s ∈ q.symbols, ¬ s.IsMarked := by
    intro _ s hs
    obtain ⟨content, rfl⟩ := terminals s hs
    exact id
  rw [QuotedLine.line, compileLine_append settings n _ q.isLineEnd,
    compileLine_of_some settings n (parse?_quotedLine some), Symbol.parts_written legible unmarked,
    map_pure, ofParts_map_symbol]

/-- A line that is compiled without a question extends the grammar by what it adds, wherever it
stands in a source. -/
theorem compile_of_lines {source line label : Text} {earlier later : List Text}
    {alternatives : List Alternative} (cut : Text.lines source = earlier ++ line :: later)
    (h : ∀ n, compileLine settings n line = pure (label, alternatives)) (g : Grammar) :
    compile settings source g =
      compileLines settings 1 earlier g >>= fun g =>
        compileLines settings (1 + earlier.length + 1) later (g.extend label alternatives) := by
  unfold compile
  rw [cut, compileLines_append]
  congr 1
  funext g
  rw [compileLines, h, pure_bind]

namespace Alternative

/-- **Spacing keeps the text.**  An alternative of fewer than two symbols stays as it is.

From an alternative of `n` symbols, two or more, spacing makes one of `2 * n - 1` symbols.  Between
any two symbols there is a space.  A nonterminal is as it was, and a terminal has a newline for each
backslash followed by `n`.  No terminal has such a pair left, and doing the same again changes no
symbol.

A text without such a pair is not changed, and any text is told from what stands between the pairs.

A line whose body consists of two or more tokens between double quotes adds one alternative with
spacing, in whatever mode and wherever it stands in a source.  The text of that alternative is the
body without its line ending and without the quotes around the tokens, with the newlines in place
and with all its spaces. -/
theorem spacing_keeps_text :
    (∀ a : Alternative, a.length < 2 → spaced a = a) ∧
    (∀ a : Alternative, 2 ≤ a.length →
      (spaced a).length = 2 * a.length - 1 ∧
      (∀ i, i + 1 < a.length → (spaced a)[2 * i + 1]? = some (.terminal [' '])) ∧
      (∀ i name, a[i]? = some (.nonterminal name) →
        (spaced a)[2 * i]? = some (.nonterminal name)) ∧
      (∀ i content, a[i]? = some (.terminal content) →
        (spaced a)[2 * i]? = some (.terminal (unescapeNewlines content))) ∧
      (∀ content, .terminal content ∈ spaced a → ¬ escapedNewline <:+: content) ∧
      (spaced a).map Symbol.unescaped = spaced a) ∧
    (∀ t, ¬ escapedNewline <:+: t → unescapeNewlines t = t) ∧
    (∀ t u, unescapeNewlines t = u ↔ Unescapes t u) ∧
    (∀ t, unescapeNewlines (unescapeNewlines t) = unescapeNewlines t) ∧
    ∀ (settings : Settings) (q : QuotedLine), settings.spacing = true → 2 ≤ q.contents.length →
      ∃ a : Alternative,
        (∀ n, compileLine settings n q.line = pure (q.label, [a])) ∧
        (∀ source earlier later, Text.lines source = earlier ++ q.line :: later →
          ∀ g, compile settings source g =
            compileLines settings 1 earlier g >>= fun g =>
              compileLines settings (1 + earlier.length + 1) later (g.extend q.label [a])) ∧
        (∀ s ∈ a, ∃ content, s = .terminal content) ∧
        a.text = [' '].intercalate (q.contents.map unescapeNewlines) := by
  refine ⟨fun a => spaced_of_length_lt, fun a h => ⟨length_spaced h,
    fun i => getElem?_spaced_odd h, fun i name hs => ?_, fun i content hs => ?_,
    fun content => not_infix_of_mem_spaced h, map_unescaped_spaced h⟩,
    fun t => unescapeNewlines_eq_self, fun t u => unescapeNewlines_eq_iff,
    unescapeNewlines_unescapeNewlines, fun settings q spacing long => ?_⟩
  · rw [getElem?_spaced_even h, hs]
    rfl
  · rw [getElem?_spaced_even h, hs]
    rfl
  · have some : q.contents ≠ [] := List.ne_nil_of_length_pos (by omega)
    have long' : 2 ≤ q.symbols.length := by
      unfold QuotedLine.symbols
      rwa [List.length_map]
    have compiled : ∀ n, compileLine settings n q.line = pure (q.label, [spaced q.symbols]) := by
      intro n
      rw [compileLine_quotedLine some, spacing, if_pos rfl]
    refine ⟨spaced q.symbols, compiled, fun source earlier later cut g =>
      compile_of_lines cut compiled g, fun s hs => ?_, ?_⟩
    · rw [spaced_of_le_length long'] at hs
      rcases mem_intersperse hs with rfl | hs
      · exact ⟨_, rfl⟩
      · obtain ⟨t, ht, rfl⟩ := List.mem_map.mp hs
        obtain ⟨content, -, rfl⟩ := List.mem_map.mp ht
        exact ⟨_, rfl⟩
    · rw [text_spaced long', QuotedLine.symbols, List.map_map]
      rfl

/-- An alternative of one symbol; a terminal with two backslashes in front of an `n`, between a
nonterminal that is called `\n` and an empty terminal; and, behind another line, a line with quotes,
an empty token and a carriage return. -/
theorem spacing_keeps_text_backslashes :
    let short : Alternative := [.terminal "\\n".toList]
    let a : Alternative :=
      [.nonterminal "\\n".toList, .terminal "\\\\nn\\n".toList, .terminal []]
    let q : QuotedLine :=
      { before := ['a'], contents := ["\\\\n".toList, [], "r\\n\"".toList], ending := "\r\n".toList
        separator_not_infix := by decide, trim_ne_nil := by decide, space_not_mem := by decide
        isLineEnd := List.all_eq_true.mp (by decide) }
    let settings : Settings := { mode := .multi, spacing := true }
    let source := "b: x\na: \"\\\\n\" \"\" \"r\\n\"\"\r\n".toList
    short.length < 2 ∧ spaced short = short ∧
    2 ≤ a.length ∧ (spaced a).length = 5 ∧ (spaced a)[0]? = some (.nonterminal "\\n".toList) ∧
    (spaced a)[1]? = some (.terminal [' ']) ∧
    (spaced a)[2]? = some (.terminal "\\\nn\n".toList) ∧
    Text.lines source = ["b: x\n".toList] ++ q.line :: [] ∧ 2 ≤ q.contents.length ∧
    ∃ a : Alternative, a.text = "\\\n  r\n\"".toList ∧
      compile settings source .empty =
        compileLines settings 1 ["b: x\n".toList] .empty >>= fun g =>
          compileLines settings 3 [] (g.extend ['a'] [a]) := by
  intro short a q settings source
  obtain ⟨alone, places, -, -, -, lines⟩ := spacing_keeps_text
  have one : short.length < 2 := by decide
  have three : 2 ≤ a.length := by decide
  have tokens : 2 ≤ q.contents.length := by decide
  have cut : Text.lines source = ["b: x\n".toList] ++ q.line :: [] := by decide
  obtain ⟨length, odd, nonterminals, terminals, -⟩ := places a three
  obtain ⟨b, -, compiled, -, text⟩ := lines settings q rfl tokens
  exact ⟨one, alone short one, three, length.trans (by decide), nonterminals 0 _ rfl,
    odd 0 (by decide), (terminals 1 _ rfl).trans (by decide), cut, tokens, b,
    text.trans (by decide), compiled source _ _ cut .empty⟩

end Alternative
end LineGrammar
