import LineGrammar.Grammar.Listing
import LineGrammar.Proofs.Symbol.Decoding
import LineGrammar.Proofs.Text.Quoted
import LineGrammar.Proofs.WellFormed

/-! # A listing determines its grammar

The names in a listing are written as they are, so a name may look like the end of a name and the
start of a list.  What tells the two apart are the quotes of the list behind the name.  A scan of a
list from left to right is outside of quotes at both ends, and one that starts in quotes by mistake
never gets out of them, for the quotes of a list come in pairs (`Balanced`).  What stands between a
name and its list has a character that a list has in quotes only.  So it is found in no list with
another list behind it (`not_balanced_of_nameEnd`), and there is one way only to cut a line into a
name and a list (`eq_of_nameEnd`).

All else in a line says where it ends, and so does the line, since neither the name nor the list has
a newline.  It does not matter which characters are hidden. -/

namespace LineGrammar

/-! ### Listings with other hidden characters -/

section Listings

variable (hidden : Char → Bool)

/-- An alternative as a list of its rendered symbols, quoted. -/
def Alternative.listingBy (a : Alternative) : Text :=
  bracketList (a.map fun s => Text.quoted hidden s.render)

def Rule.alternativesBy (r : Rule) : Text :=
  bracketList (r.alternatives.map (Alternative.listingBy hidden))

def Rule.lineBy (r : Rule) : Text :=
  Symbol.bracketed r.name ++ " = ".toList ++ r.alternativesBy hidden

def Grammar.listingBy (g : Grammar) : Text :=
  g.rules.toList.flatMap fun r => r.lineBy hidden ++ ['\n']

end Listings

/-- The items after the first one, each with the separator in front. -/
theorem intercalate_cons (separator item : Text) (items : List Text) :
    separator.intercalate (item :: items) = item ++ items.flatMap fun t => separator ++ t := by
  induction items generalizing item with
  | nil => simp
  | cons next items ih =>
      rw [List.intercalate_cons_cons, ih, List.flatMap_cons, List.append_assoc, List.append_assoc]

theorem bracketList_cons (item : Text) (items : List Text) :
    bracketList (item :: items) =
      '[' :: (item ++ (items.flatMap (fun t => ", ".toList ++ t) ++ [']'])) := by
  unfold bracketList
  rw [intercalate_cons, List.append_assoc]

/-- A list of items says where it ends, if each item does and none starts as the end of a list. -/
theorem PrefixFree.bracketList {α : Type} {write : α → Text} (free : PrefixFree write)
    (first : ∀ a, ∃ c t, write a = c :: t ∧ c ≠ ']') :
    PrefixFree fun l : List α => LineGrammar.bracketList (l.map write) := by
  have later : PrefixFree fun l : List α =>
      (l.map write).flatMap (fun t => ", ".toList ++ t) ++ [']'] := by
    simp only [List.flatMap_map]
    exact (free.prepend ", ".toList).closed fun a => ⟨',', ' ' :: write a, rfl, by decide⟩
  intro l m t u equal
  cases l with
  | nil =>
      cases m with
      | nil => exact ⟨rfl, by simpa [LineGrammar.bracketList] using equal⟩
      | cons b m =>
          obtain ⟨c, v, written, other⟩ := first b
          simp [written, LineGrammar.bracketList, other.symm] at equal
  | cons a l =>
      cases m with
      | nil =>
          obtain ⟨c, v, written, other⟩ := first a
          simp [written, LineGrammar.bracketList, other] at equal
      | cons b m =>
          simp only [List.map_cons, bracketList_cons, List.cons_append, List.cons.injEq, true_and,
            List.append_assoc (write _)] at equal
          obtain ⟨rfl, rest⟩ := free equal
          exact (later rest).imp_left (congrArg (List.cons a))

section Items

variable (hidden : Char → Bool)

theorem prefixFree_alternative : PrefixFree (Alternative.listingBy hidden) :=
  ((Text.prefixFree_quoted hidden).comp fun _ _ => Symbol.render_injective).bracketList
    fun s => ⟨'"', _, rfl, by decide⟩

theorem prefixFree_alternatives :
    PrefixFree fun l : List Alternative => bracketList (l.map (Alternative.listingBy hidden)) :=
  (prefixFree_alternative hidden).bracketList fun a => ⟨'[', _, rfl, by decide⟩

end Items

/-- Where a scan of a list is. -/
inductive Place where
  | outside
  | inside
  | escaped
  deriving DecidableEq

namespace Place

/-- Where the scan is behind a character, if the character can stand in a list at that place. -/
def next : Place → Char → Option Place
  | outside, c => if c = '"' then some inside else if c ∈ "[], ".toList then some outside else none
  | inside, c =>
    if c = '"' then some outside else if c = '\\' then some escaped
    else if c = '\n' then none else some inside
  | escaped, c => if c ∈ "\"\\0tnru".toList then some inside else none

/-- Where the scan is behind a text, if the text can stand in a list at that place. -/
def scan (p : Place) (t : Text) : Option Place := t.foldlM next p

theorem scan_append (p : Place) (t u : Text) :
    p.scan (t ++ u) = (p.scan t).bind fun q => q.scan u := List.foldlM_append

theorem scan_cons (p : Place) (c : Char) (t : Text) :
    p.scan (c :: t) = (p.next c).bind fun q => q.scan t := List.foldlM_cons

theorem next_newline (p : Place) : p.next '\n' = none := by cases p <;> decide

/-- No list has a newline. -/
theorem newline_not_mem_of_scan {p q : Place} {t : Text} (h : p.scan t = some q) : '\n' ∉ t := by
  induction t generalizing p with
  | nil => exact List.not_mem_nil
  | cons c t ih =>
      rw [scan_cons] at h
      obtain ⟨q', first, rest⟩ := Option.bind_eq_some_iff.mp h
      rintro (_ | ⟨_, later⟩)
      · rw [next_newline] at first
        cases first
      · exact ih rest later

variable {p : Place} {t u : Text}

/-- A scan that starts at the place comes through the text and is there again. -/
def Passes (p : Place) (t : Text) : Prop := p.scan t = some p

/-- A scan that starts at the place is there again behind the text, if it comes through. -/
def Confines (p : Place) (t : Text) : Prop := ∀ q, p.scan t = some q → q = p

theorem Passes.append (ht : p.Passes t) (hu : p.Passes u) : p.Passes (t ++ u) := by
  unfold Passes at *
  rw [scan_append, ht, Option.bind_some, hu]

theorem Passes.confines (h : p.Passes t) : p.Confines t := by
  intro q hq
  rw [h] at hq
  exact (Option.some.inj hq).symm

theorem Confines.append (ht : p.Confines t) (hu : p.Confines u) : p.Confines (t ++ u) := by
  intro q h
  rw [scan_append] at h
  obtain ⟨r, first, rest⟩ := Option.bind_eq_some_iff.mp h
  rw [ht r first] at rest
  exact hu q rest

theorem passes_of_next (h : ∀ c ∈ t, p.next c = some p) : p.Passes t := by
  induction t with
  | nil => rfl
  | cons c t ih =>
      obtain ⟨first, rest⟩ := List.forall_mem_cons.mp h
      unfold Passes at *
      rw [scan_cons, first, Option.bind_some, ih rest]

/-- In quotes, what has no meaning of its own there is passed. -/
theorem passes_inside (h : ∀ c ∈ t, c ≠ '"' ∧ c ≠ '\\' ∧ c ≠ '\n') : inside.Passes t :=
  passes_of_next fun c hc => by simp [next, h c hc]

end Place

/-- What holds of texts and of their concatenation holds of texts one after another. -/
theorem flatMap_induction {α : Type} {P : Text → Prop} (nil : P [])
    (append : ∀ {t u : Text}, P t → P u → P (t ++ u)) {f : α → Text} {l : List α}
    (h : ∀ a ∈ l, P (f a)) : P (l.flatMap f) := by
  induction l with
  | nil => exact nil
  | cons a l ih =>
      obtain ⟨first, rest⟩ := List.forall_mem_cons.mp h
      exact append first (ih rest)

open Place

/-- A scan of the text that starts outside of quotes ends there, and one that starts in quotes ends
in quotes, if it comes through. -/
structure Balanced (t : Text) : Prop where
  outside : Place.outside.Passes t
  inside : Place.inside.Confines t

namespace Balanced

theorem append {t u : Text} (ht : Balanced t) (hu : Balanced u) : Balanced (t ++ u) :=
  ⟨ht.outside.append hu.outside, ht.inside.append hu.inside⟩

theorem flatMap {α : Type} {f : α → Text} {l : List α} (h : ∀ a ∈ l, Balanced (f a)) :
    Balanced (l.flatMap f) :=
  flatMap_induction ⟨rfl, Passes.confines rfl⟩ append h

/-- Brackets, commas and spaces are passed anywhere. -/
theorem of_subset {t : Text} (h : ∀ c ∈ t, c ∈ "[], ".toList) : Balanced t := by
  have plain : ∀ c ∈ "[], ".toList, c ≠ '"' ∧ c ≠ '\\' ∧ c ≠ '\n' := by simp
  refine ⟨passes_of_next fun c hc => ?_, (passes_inside fun c hc => plain c (h c hc)).confines⟩
  simp only [next, if_neg (plain c (h c hc)).1, if_pos (h c hc)]

theorem bracketList {items : List Text} (h : ∀ t ∈ items, Balanced t) :
    Balanced (bracketList items) := by
  have opens : Balanced ['['] := of_subset (by simp)
  have closes : Balanced [']'] := of_subset (by simp)
  cases items with
  | nil => exact opens.append closes
  | cons item items =>
      obtain ⟨first, later⟩ := List.forall_mem_cons.mp h
      have comma : Balanced ", ".toList := of_subset (by simp)
      rw [bracketList_cons]
      exact opens.append (first.append
        ((flatMap fun t ht => comma.append (later t ht)).append closes))

end Balanced

/-! ### Lists of quoted texts are balanced -/

section Quotes

variable (hidden : Char → Bool)

theorem passes_inside_escape (c : Char) : Place.inside.Passes (Text.escape hidden c) := by
  unfold Text.escape
  split_ifs with h₁ h₂ h₃ h₄ h₅ h₆ h₇
  iterate 6 rfl
  · have opens : Place.inside.Passes ['\\', 'u', '{'] := by rfl
    have digits : Place.inside.Passes (Nat.toDigits 16 c.toNat) :=
      passes_inside fun d hd => (Text.ne_of_mem_toDigits hd).2
    have closes : Place.inside.Passes ['}'] := by rfl
    exact (opens.append digits).append closes
  · exact passes_inside fun d hd => List.mem_singleton.mp hd ▸ ⟨h₁, h₂, h₅⟩

/-- Between quotes there is nothing that would take a scan outside of quotes into them: no quote is
written as it is, and no list has a backslash outside of quotes. -/
theorem confines_outside_escape (c : Char) : Place.outside.Confines (Text.escape hidden c) := by
  intro q h
  rcases Text.escape_eq hidden c with ⟨t, written⟩ | ⟨written, other⟩
  · have fails : Place.outside.next '\\' = none := by decide
    rw [written, scan_cons, fails] at h
    cases h
  · rw [written, scan_cons] at h
    obtain ⟨p, first, rest⟩ := Option.bind_eq_some_iff.mp h
    simp only [next, if_neg other] at first
    split at first
    · rw [← Option.some.inj first] at rest
      exact (Option.some.inj rest).symm
    · cases first

/-- The quotes of a quoted text come in pairs. -/
theorem balanced_quoted (t : Text) : Balanced (Text.quoted hidden t) := by
  have enters : Place.outside.next '"' = some Place.inside := by decide
  have leaves : Place.inside.next '"' = some Place.outside := by decide
  have inner : Place.inside.Passes (t.flatMap (Text.escape hidden)) :=
    flatMap_induction (P := Place.inside.Passes) rfl Passes.append
      fun c _ => passes_inside_escape hidden c
  have outer : Place.outside.Confines (t.flatMap (Text.escape hidden)) :=
    flatMap_induction (Passes.confines rfl) Confines.append
      fun c _ => confines_outside_escape hidden c
  unfold Text.quoted
  constructor
  · unfold Passes
    rw [scan_cons, enters, Option.bind_some, scan_append, inner]
    rfl
  · intro q h
    rw [scan_cons, leaves, Option.bind_some, scan_append] at h
    obtain ⟨p, first, rest⟩ := Option.bind_eq_some_iff.mp h
    rw [outer p first] at rest
    exact (Option.some.inj rest).symm

theorem balanced_alternative (a : Alternative) : Balanced (a.listingBy hidden) := by
  refine Balanced.bracketList fun t ht => ?_
  obtain ⟨s, -, rfl⟩ := List.mem_map.mp ht
  exact balanced_quoted hidden s.render

theorem balanced_alternatives (r : Rule) : Balanced (r.alternativesBy hidden) := by
  refine Balanced.bracketList fun t ht => ?_
  obtain ⟨a, -, rfl⟩ := List.mem_map.mp ht
  exact balanced_alternative hidden a

end Quotes

/-! ### The end of a name -/

/-- What stands between a name and its list. -/
def nameEnd : Text := ['>', ' ', '=', ' ']

/-- No list ends with the end of a name and another list: the end of a name has a character that a
list has in quotes only, and a scan of the other list from in quotes does not end outside. -/
theorem not_balanced_of_nameEnd (w : Text) {list : Text} (h : Balanced list) :
    ¬ Balanced (w ++ (nameEnd ++ list)) := by
  intro whole
  have comes := whole.outside
  unfold Passes at comes
  rw [scan_append] at comes
  obtain ⟨p, -, rest⟩ := Option.bind_eq_some_iff.mp comes
  rw [scan_append] at rest
  cases p with
  | outside =>
      rw [show Place.outside.scan nameEnd = none by decide] at rest
      cases rest
  | escaped =>
      rw [show Place.escaped.scan nameEnd = none by decide] at rest
      cases rest
  | inside =>
      rw [show Place.inside.scan nameEnd = some Place.inside by decide, Option.bind_some] at rest
      cases h.inside _ rest

/-- What starts with the end of a name and goes on with a list does not start like that again
further on, neither in the list nor across the end of the name. -/
theorem eq_nil_of_nameEnd {w list other : Text} (hl : Balanced list) (ho : Balanced other)
    (h : nameEnd ++ list = w ++ (nameEnd ++ other)) : w = [] := by
  rcases List.append_eq_append_iff.mp h with ⟨v, -, cut⟩ | ⟨v, overlap, rest⟩
  · exact absurd (cut ▸ hl) (not_balanced_of_nameEnd v ho)
  · cases w with
    | nil => rfl
    | cons c w =>
        have tail : [' ', '=', ' '] = w ++ v := (List.cons.inj overlap).2
        cases v with
        | nil => exact absurd (rest ▸ hl) (not_balanced_of_nameEnd [] ho)
        | cons d v =>
            -- The first character of the end of a name is not found again in it.
            have first : '>' = d := (List.cons.inj rest).1
            have later : d ∈ [' ', '=', ' '] :=
              tail ▸ List.mem_append_right w List.mem_cons_self
            rw [← first] at later
            exact absurd later (by decide)

/-- There is one way only to cut a line into a name and a list. -/
theorem eq_of_nameEnd {m n list other : Text} (hl : Balanced list) (ho : Balanced other)
    (h : m ++ (nameEnd ++ list) = n ++ (nameEnd ++ other)) : m = n := by
  rcases List.append_eq_append_iff.mp h with ⟨w, rfl, rest⟩ | ⟨w, rfl, rest⟩
  · rw [eq_nil_of_nameEnd hl ho rest, List.append_nil]
  · rw [eq_nil_of_nameEnd ho hl rest, List.append_nil]

/-! ### Lines -/

section Lines

variable (hidden : Char → Bool)

theorem lineBy_eq (r : Rule) :
    r.lineBy hidden = '<' :: (r.name ++ (nameEnd ++ r.alternativesBy hidden)) := by
  simp [Rule.lineBy, Symbol.bracketed, nameEnd]

/-- The line of a rule has no newline, if its name has none. -/
theorem newline_not_mem_lineBy {r : Rule} (h : '\n' ∉ r.name) : '\n' ∉ r.lineBy hidden := by
  have list := newline_not_mem_of_scan (balanced_alternatives hidden r).outside
  rw [lineBy_eq]
  simp [nameEnd, h, list]

/-- A line determines its rule, whatever characters the name has. -/
theorem lineBy_injective : Function.Injective (Rule.lineBy hidden) := by
  intro r s equal
  rw [lineBy_eq, lineBy_eq] at equal
  have body := (List.cons.inj equal).2
  have name : r.name = s.name :=
    eq_of_nameEnd (balanced_alternatives hidden r) (balanced_alternatives hidden s) body
  rw [name] at body
  have alternatives : r.alternatives = s.alternatives :=
    (prefixFree_alternatives hidden).injective
      (List.append_cancel_left (List.append_cancel_left body))
  cases r
  cases s
  simp_all

end Lines

namespace Grammar

/-- The lines of a listing are those of the rules, if no name has a newline. -/
theorem lines_listingBy (hidden : Char → Bool) {g : Grammar}
    (h : ∀ r ∈ g.rules.toList, '\n' ∉ r.name) :
    Text.lines (g.listingBy hidden) = g.rules.toList.map fun r => r.lineBy hidden ++ ['\n'] :=
  Text.lines_flatMap fun r hr => newline_not_mem_lineBy hidden (h r hr)

/-- **A listing determines its grammar.**

Whichever characters are hidden, two grammars whose names have no newline have the same rules, in
the same order, if they have the same listing.

The listing of a grammar is the one with the hidden characters of a quoted text.

No name has a newline after a run of actions that succeeds, from nothing on. -/
theorem listing_determines :
    (∀ (hidden : Char → Bool) (g h : Grammar), (∀ r ∈ g.rules.toList, '\n' ∉ r.name) →
      (∀ r ∈ h.rules.toList, '\n' ∉ r.name) → g.listingBy hidden = h.listingBy hidden →
        g.rules = h.rules) ∧
      (∀ g : Grammar, g.listing = g.listingBy Text.isHidden) ∧
      ∀ {σ : Type} [Sampler σ] (sampler : σ) (actions : List (Action σ)),
        (Workbench.performAll actions (.fresh sampler)).1 = .ok () →
          ∀ r ∈ (Workbench.performAll actions (.fresh sampler)).2.grammar.rules.toList,
            '\n' ∉ r.name := by
  refine ⟨fun hidden g h hg hh equal => ?_, fun g => rfl, fun _ _ succeeds r hr =>
    (Workbench.isLabel_of_mem_rules succeeds hr).newline_not_mem⟩
  have lines := congrArg Text.lines equal
  rw [lines_listingBy hidden hg, lines_listingBy hidden hh] at lines
  have line_injective : Function.Injective fun r : Rule => r.lineBy hidden ++ ['\n'] :=
    fun r s same => lineBy_injective hidden (List.append_cancel_right same)
  exact Array.toList_inj.mp (line_injective.list_map lines)

/-- A name that ends like a name and goes on like a list, and two runs that come to its grammar. -/
theorem listing_determines_names :
    let first := "a> = [[\": \"\\\" b\n".toList
    let second := "<: \"\"\n".toList
    let once : List (Action Prepared) := [.source (first ++ second)]
    let twice : List (Action Prepared) := [.source first, .mode .multi, .source second]
    let g := (Workbench.performAll once (.fresh ⟨[]⟩)).2.grammar
    let h := (Workbench.performAll twice (.fresh ⟨[]⟩)).2.grammar
    g.listing = "<a> = [[\"> = [[\"\\\\\", \"<b>\"]]\n<<> = [[\"\"]]\n".toList ∧
      h.listing = g.listing ∧ g.rules = h.rules := by
  intro first second once twice g h
  obtain ⟨determines, same, compiled⟩ := listing_determines
  have once_succeeds : (Workbench.performAll once (.fresh ⟨[]⟩)).1 = .ok () := by decide
  have twice_succeeds : (Workbench.performAll twice (.fresh ⟨[]⟩)).1 = .ok () := by decide
  have equal : h.listing = g.listing := by decide
  refine ⟨by decide, equal, ?_⟩
  rw [same, same] at equal
  exact determines _ g h (compiled _ _ once_succeeds) (compiled _ _ twice_succeeds) equal.symm

/-- With a newline in its name, one rule may have the listing of two. -/
example : (empty.extendAll [{ name := "a> = []\n<b".toList }]).listing =
    (empty.extendAll [{ name := ['a'] }, { name := ['b'] }]).listing := by decide

end Grammar
end LineGrammar
