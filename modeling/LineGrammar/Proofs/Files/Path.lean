import LineGrammar.Files.Path
import Mathlib.Data.List.TakeWhile

/-! # The pieces of a path

The pieces of a path up to its final name (`splitFinal?_eq_some_iff`), and those of the temporary
path.  Where there is a final name, it gives way to the name with the suffix
(`pieces_temporary_of_final`); otherwise the suffix comes behind the path (`pieces_push`).  The
temporary path starts where the path starts (`isAbsolute_temporary`). -/

namespace LineGrammar.Path

variable {path : Text}

/-- Pieces are idle, or there is a last one among them that is not. -/
theorem forall_isIdle_or_exists_last (ps : List Text) :
    (∀ p ∈ ps, isIdle p) ∨
      ∃ before last idle, ps = before ++ last :: idle ∧ isIdle last = false ∧
        ∀ p ∈ idle, isIdle p := by
  induction ps with
  | nil => exact .inl (by simp)
  | cons p ps ih =>
      obtain allIdle | ⟨before, last, idle, rfl, busy, rest⟩ := ih
      · cases hp : isIdle p with
        | true => exact .inl (by simpa [hp] using allIdle)
        | false => exact .inr ⟨[], p, ps, rfl, hp, allIdle⟩
      · exact .inr ⟨p :: before, last, idle, rfl, busy, rest⟩

theorem dropWhile_reverse {before idle : List Text} {last : Text} (busy : isIdle last = false)
    (hidle : ∀ p ∈ idle, isIdle p) :
    (before ++ last :: idle).reverse.dropWhile isIdle = last :: before.reverse := by
  rw [List.reverse_append, List.reverse_cons, List.append_assoc,
    List.dropWhile_append_of_pos (by simpa using hidle), List.singleton_append,
    List.dropWhile_cons_of_neg (by simp [busy])]

theorem splitFinal?_eq_none_of_idle (h : ∀ p ∈ pieces path, isIdle p) :
    splitFinal? path = none := by
  unfold splitFinal?
  rw [List.dropWhile_eq_nil_iff.mpr fun p hp => h p (List.mem_reverse.mp hp)]

theorem splitFinal?_of_pieces {before idle : List Text} {last : Text}
    (h : pieces path = before ++ last :: idle) (busy : isIdle last = false)
    (hidle : ∀ p ∈ idle, isIdle p) :
    splitFinal? path = if last = up then none else some (before, last) := by
  unfold splitFinal?
  rw [h, dropWhile_reverse busy hidle]
  simp only [List.reverse_reverse]

theorem splitFinal?_eq_some_iff {before : List Text} {name : Text} :
    splitFinal? path = some (before, name) ↔
      isIdle name = false ∧ name ≠ up ∧
        ∃ idle, (∀ p ∈ idle, isIdle p) ∧ pieces path = before ++ name :: idle := by
  constructor
  · intro h
    obtain allIdle | ⟨before', last, idle, hp, busy, hidle⟩ :=
      forall_isIdle_or_exists_last (pieces path)
    · rw [splitFinal?_eq_none_of_idle allIdle] at h
      exact (nomatch h)
    · rw [splitFinal?_of_pieces hp busy hidle] at h
      split at h
      · exact (nomatch h)
      · rename_i notUp
        cases h
        exact ⟨busy, notUp, idle, hidle, hp⟩
  · rintro ⟨busy, notUp, idle, hidle, hp⟩
    rw [splitFinal?_of_pieces hp busy hidle, if_neg notUp]

/-- A path without a final name has idle pieces only, or leads up last. -/
theorem splitFinal?_eq_none_iff :
    splitFinal? path = none ↔
      (∀ p ∈ pieces path, isIdle p) ∨
        ∃ before idle, (∀ p ∈ idle, isIdle p) ∧ pieces path = before ++ up :: idle := by
  constructor
  · intro h
    obtain allIdle | ⟨before, last, idle, hp, busy, hidle⟩ :=
      forall_isIdle_or_exists_last (pieces path)
    · exact .inl allIdle
    · rw [splitFinal?_of_pieces hp busy hidle] at h
      split at h
      · rename_i isUp
        exact .inr ⟨before, idle, hidle, isUp ▸ hp⟩
      · exact (nomatch h)
  · rintro (allIdle | ⟨before, idle, hidle, hp⟩)
    · exact splitFinal?_eq_none_of_idle allIdle
    · rw [splitFinal?_of_pieces hp (by decide) hidle, if_pos rfl]

theorem slash_not_mem_of_mem_pieces {p : Text} (h : p ∈ pieces path) : '/' ∉ p := by
  unfold pieces at h
  induction path generalizing p with
  | nil =>
      obtain rfl : p = [] := by simpa using h
      exact List.not_mem_nil
  | cons c path ih =>
      rw [List.splitOn_cons_eq_if_modifyHead] at h
      by_cases hc : c = '/'
      · rw [if_pos (by simpa using hc)] at h
        obtain rfl | hp := List.mem_cons.mp h
        · exact List.not_mem_nil
        · exact ih hp
      · rw [if_neg (by simpa using hc)] at h
        obtain ⟨q, qs, hq⟩ := List.exists_cons_of_ne_nil (List.splitOn_ne_nil '/' path)
        rw [hq] at h ih
        obtain rfl | hp := List.mem_cons.mp h
        · have later : '/' ∉ q := ih List.mem_cons_self
          simpa [Ne.symm hc] using later
        · exact ih (List.mem_cons_of_mem _ hp)

/-- Pieces without slashes are those of the path that they make up. -/
theorem pieces_intercalate {ps : List Text} (hps : ps ≠ []) (h : ∀ p ∈ ps, '/' ∉ p) :
    pieces (['/'].intercalate ps) = ps :=
  List.splitOn_intercalate '/' h hps

theorem isAbsolute_eq :
    isAbsolute path = match pieces path with
      | [] :: _ :: _ => true
      | _ => false := by
  cases path with
  | nil => rfl
  | cons c path =>
      obtain ⟨q, qs, hq⟩ := List.exists_cons_of_ne_nil (List.splitOn_ne_nil '/' path)
      unfold isAbsolute pieces
      rw [List.splitOn_cons_eq_if_modifyHead, hq]
      by_cases hc : c = '/'
      · simp [hc]
      · simp [hc]

/-! ### The temporary path -/

theorem trimPieces_append_idle (ps : List Text) :
    ∃ idle, (∀ p ∈ idle, isIdle p) ∧ ps = trimPieces ps ++ idle := by
  cases ps with
  | nil => exact ⟨[], by simp, rfl⟩
  | cons first rest =>
      refine ⟨(rest.reverse.takeWhile isIdle).reverse, ?_, ?_⟩
      · intro p hp
        exact List.mem_takeWhile_imp (List.mem_reverse.mp hp)
      · unfold trimPieces
        rw [List.cons_append, ← List.reverse_append, List.takeWhile_append_dropWhile,
          List.reverse_reverse]

theorem mem_of_mem_trimPieces {ps : List Text} {p : Text} (h : p ∈ trimPieces ps) : p ∈ ps := by
  obtain ⟨idle, -, hps⟩ := trimPieces_append_idle ps
  rw [hps]
  exact List.mem_append_left idle h

theorem pieces_temporary_of_final {before : List Text} {name : Text}
    (h : splitFinal? path = some (before, name)) :
    pieces (temporary path) = trimPieces before ++ [name ++ suffix] := by
  obtain ⟨-, -, idle, -, hp⟩ := splitFinal?_eq_some_iff.mp h
  have free : ∀ p ∈ before ++ [name], '/' ∉ p := by
    intro p hmem
    have piece : p ∈ pieces path := by
      rw [hp]
      exact List.mem_append.mpr ((List.mem_append.mp hmem).imp_right (by simp +contextual))
    exact slash_not_mem_of_mem_pieces piece
  unfold temporary
  rw [h]
  refine pieces_intercalate (by simp) ?_
  intro p hmem
  obtain hp | hp := List.mem_append.mp hmem
  · exact free p (List.mem_append_left _ (mem_of_mem_trimPieces hp))
  · obtain rfl : p = name ++ suffix := by simpa using hp
    have nameFree : '/' ∉ name := free name (by simp)
    simpa [suffix] using nameFree

theorem pieces_of_not_mem {piece : Text} (h : '/' ∉ piece) : pieces piece = [piece] :=
  List.splitOn_eq_singleton h

/-- One more piece comes behind the pieces of a path, but for an empty one at their end. -/
theorem pieces_push {piece : Text} (h : '/' ∉ piece) :
    ∃ before, pieces (push path piece) = before ++ [piece] ∧
      (pieces path = before ∨ pieces path = before ++ [[]]) := by
  have behind (path : Text) : pieces (path ++ '/' :: piece) = pieces path ++ [piece] := by
    unfold pieces
    rw [List.splitOn_append_cons_self]
    exact congrArg _ (pieces_of_not_mem h)
  by_cases empty : path = []
  · rw [empty]
    exact ⟨[], pieces_of_not_mem h, .inr rfl⟩
  · by_cases slash : path.getLast? = some '/'
    · obtain ⟨front, rfl⟩ := List.getLast?_eq_some_iff.mp slash
      refine ⟨pieces front, ?_, .inr (List.splitOn_append_cons_self front [])⟩
      rw [← behind]
      simp [push]
    · refine ⟨pieces path, ?_, .inl rfl⟩
      rw [← behind]
      simp [push, empty, slash]

theorem pieces_temporary_of_no_final (h : splitFinal? path = none) :
    ∃ before, pieces (temporary path) = before ++ [suffix] ∧
      (pieces path = before ∨ pieces path = before ++ [[]]) := by
  unfold temporary
  rw [h]
  exact pieces_push (by decide)

theorem isAbsolute_push {piece : Text} (h : '/' ∉ piece) :
    isAbsolute (push path piece) = isAbsolute path := by
  cases path with
  | nil =>
      unfold isAbsolute push
      cases piece with
      | nil => rfl
      | cons c piece =>
          have first : c ≠ '/' := fun hc => h (hc ▸ List.mem_cons_self)
          simpa using first
  | cons c path =>
      unfold isAbsolute push
      split <;> rfl

theorem isAbsolute_temporary : isAbsolute (temporary path) = isAbsolute path := by
  cases h : splitFinal? path with
  | none =>
      unfold temporary
      rw [h]
      exact isAbsolute_push (by decide)
  | some final =>
      obtain ⟨before, name⟩ := final
      obtain ⟨busy, -, idle, -, hp⟩ := splitFinal?_eq_some_iff.mp h
      rw [isAbsolute_eq, isAbsolute_eq, pieces_temporary_of_final h, hp]
      cases before with
      | nil =>
          obtain ⟨c, name, rfl⟩ : ∃ c rest, name = c :: rest := by
            cases name with
            | nil => exact absurd busy (by decide)
            | cons c rest => exact ⟨c, rest, rfl⟩
          rfl
      | cons first rest =>
          obtain ⟨p, ps, later⟩ := List.exists_cons_of_ne_nil
            (List.append_ne_nil_of_right_ne_nil rest (List.cons_ne_nil name idle))
          obtain ⟨q, qs, trimmed⟩ := List.exists_cons_of_ne_nil
            (List.append_ne_nil_of_right_ne_nil (rest.reverse.dropWhile isIdle).reverse
              (List.cons_ne_nil (name ++ suffix) []))
          rw [trimPieces, List.cons_append, List.cons_append, later, trimmed]
          cases first <;> rfl

end LineGrammar.Path
