import LineGrammar.Files.System
import LineGrammar.Proofs.Except
import LineGrammar.Proofs.Files.Path

/-! # Where paths lead

The location that a path leads to (`FileSystem.location?`).  A path with a final name leads to that
name in the directory that the pieces before it lead to (`exists_walk_of_location?`); a path
without one leads to the directory that all its pieces lead to (`walk_of_location?`).

The location depends on the working directory and on which locations are directories, and on
nothing else (`location?_congr`).  The temporary path leads to a name with the suffix, in the same
directory as the path where that has a final name, and so never to where the path leads
(`location?_temporary_ne`). -/

namespace LineGrammar

/-- The pieces of a path that are not empty. -/
def Path.names (path : Text) : List Text := (pieces path).filter fun p => !p.isEmpty

def Target.location : Target → Location
  | name directory last _ => directory ++ [last]
  | unnamed directory => directory

namespace FileSystem

open LineGrammar.Path

variable (fs : FileSystem) {fs' : FileSystem} {path : Text} {l d : Location} {t : Target}

theorem walk_append (l : Location) (as bs : List Text) :
    fs.walk l (as ++ bs) = fs.walk l as >>= fun d => fs.walk d bs := by
  induction as generalizing l with
  | nil => rfl
  | cons piece as ih =>
      rw [List.cons_append, walk, walk]
      split
      · exact ih l
      · split
        · exact ih l.dropLast
        · split
          · rfl
          · split
            · rfl
            · rfl
            · exact ih (l ++ [piece])

theorem walk_of_idle (l : Location) {pieces : List Text} (h : ∀ p ∈ pieces, isIdle p) :
    fs.walk l pieces = .ok l := by
  induction pieces with
  | nil => rfl
  | cons piece pieces ih =>
      rw [walk, if_pos (h piece List.mem_cons_self)]
      exact ih fun p hp => h p (List.mem_cons_of_mem _ hp)

theorem walk_append_idle (l : Location) (as : List Text) {idle : List Text}
    (h : ∀ p ∈ idle, isIdle p) : fs.walk l (as ++ idle) = fs.walk l as := by
  rw [walk_append]
  cases fs.walk l as with
  | error fault => rfl
  | ok d => exact fs.walk_of_idle d h

theorem walk_name {name : Text} (busy : isIdle name = false) (notUp : name ≠ up)
    (h : fs.walk l [name] = .ok d) : d = l ++ [name] := by
  rw [walk, if_neg (by simp [busy]), if_neg notUp] at h
  split at h
  · exact (nomatch h)
  · split at h
    · exact (nomatch h)
    · exact (nomatch h)
    · cases h
      rfl

theorem walk_filter (l : Location) (ps : List Text) :
    fs.walk l (ps.filter fun p => !p.isEmpty) = fs.walk l ps := by
  induction ps generalizing l with
  | nil => rfl
  | cons piece ps ih =>
      by_cases h : piece = []
      · rw [h, List.filter_cons_of_neg (by simp), ih]
        rfl
      · rw [List.filter_cons_of_pos (by simpa using h)]
        unfold walk
        simp only [ih]

/-- Whether and where a walk ends depends on the directories only. -/
theorem walk_congr (hd : ∀ l, fs.entry? l = some .directory → fs'.entry? l = some .directory)
    {pieces : List Text} (h : fs.walk l pieces = .ok d) : fs'.walk l pieces = .ok d := by
  induction pieces generalizing l with
  | nil => exact h
  | cons piece pieces ih =>
      unfold walk at h ⊢
      split at h
      · rw [if_pos ‹_›]
        exact ih h
      · rw [if_neg ‹_›]
        split at h
        · rw [if_pos ‹_›]
          exact ih h
        · rw [if_neg ‹_›]
          split at h
          · exact (nomatch h)
          · rw [if_neg ‹_›]
            split at h
            · exact (nomatch h)
            · exact (nomatch h)
            · rename_i directory
              rw [hd _ directory]
              exact ih h

def start (path : Text) : Location := if isAbsolute path then [] else fs.working

/-- Where the pieces of a path lead. -/
def follow (path : Text) : Except FileFault Target :=
  match (names path).getLast? with
  | none => .ok (.unnamed (fs.start path))
  | some last =>
    if isIdle last || last == up then do
      return .unnamed (← fs.walk (fs.start path) (names path))
    else do
      let directory ← fs.walk (fs.start path) (names path).dropLast
      if nameLimit < Text.byteLength last then .error .nameTooLong
      else return .name directory last (path.getLast? == some '/')

theorem resolve_eq :
    fs.resolve path =
      if path.contains '\x00' then .error .nulInPath
      else if path.isEmpty then .error .notFound
      else if pathLimit ≤ Text.byteLength path then .error .nameTooLong
      else fs.follow path := by
  unfold resolve
  cases path.contains '\x00' with
  | true => rfl
  | false =>
    cases path.isEmpty with
    | true => rfl
    | false =>
      by_cases long : pathLimit ≤ Text.byteLength path
      · simp only [long, if_true]
        rfl
      · simp only [long, if_false]
        rfl

/-- That a path leads to a target: to the directory that its pieces lead to if the last of them is
not a name, and otherwise to this name in the directory that the others lead to. -/
inductive Leads (path : Text) : Target → Prop
  | unnamed {directory : Location}
      (last : ∀ p, (names path).getLast? = some p → isIdle p ∨ p = up)
      (walked : fs.walk (fs.start path) (names path) = .ok directory) :
      Leads path (.unnamed directory)
  | name {directory : Location} {before : List Text} {last : Text}
      (split : names path = before ++ [last]) (busy : isIdle last = false) (notUp : last ≠ up)
      (walked : fs.walk (fs.start path) before = .ok directory)
      (fits : Text.byteLength last ≤ nameLimit) :
      Leads path (.name directory last (path.getLast? == some '/'))

theorem leads_of_follow (h : fs.follow path = .ok t) : fs.Leads path t := by
  unfold follow at h
  cases hlast : (names path).getLast? with
  | none =>
      rw [hlast] at h
      cases h
      refine .unnamed (by simp [hlast]) ?_
      rw [List.getLast?_eq_none_iff.mp hlast]
      rfl
  | some last =>
      obtain ⟨before, split⟩ := List.getLast?_eq_some_iff.mp hlast
      simp only [hlast] at h
      split at h
      · rename_i turn
        obtain ⟨directory, walked, h⟩ := bind_eq_ok_iff.mp h
        cases h
        exact .unnamed (by simpa [hlast] using turn) walked
      · rename_i straight
        obtain ⟨busy, notUp⟩ : isIdle last = false ∧ last ≠ up := by simpa using straight
        obtain ⟨directory, walked, h⟩ := bind_eq_ok_iff.mp h
        rw [split, List.dropLast_concat] at walked
        split at h
        · exact (nomatch h)
        · rename_i fits
          cases h
          exact .name split busy notUp walked (Nat.not_lt.mp fits)

theorem Leads.follow_eq (h : fs.Leads path t) : fs.follow path = .ok t := by
  unfold follow
  cases h with
  | unnamed last walked =>
      cases hlast : (names path).getLast? with
      | none =>
          rw [List.getLast?_eq_none_iff.mp hlast] at walked
          cases walked
          rfl
      | some p => simp [last p hlast, walked]
  | name split busy notUp walked fits =>
      simp [split, busy, notUp, walked, Nat.not_lt.mpr fits]

theorem resolve_eq_ok_iff :
    fs.resolve path = .ok t ↔
      (path.contains '\x00' = false ∧ path ≠ [] ∧ Text.byteLength path < pathLimit) ∧
        fs.Leads path t := by
  rw [resolve_eq]
  constructor
  · intro h
    split at h
    · exact (nomatch h)
    · rename_i noNul
      split at h
      · exact (nomatch h)
      · rename_i nonempty
        split at h
        · exact (nomatch h)
        · rename_i short
          exact ⟨⟨by simpa using noNul, by simpa using nonempty, Nat.not_le.mp short⟩,
            fs.leads_of_follow h⟩
  · rintro ⟨⟨noNul, nonempty, short⟩, leads⟩
    rw [if_neg (by simpa using noNul), if_neg (by simpa using nonempty),
      if_neg (Nat.not_le.mpr short)]
    exact leads.follow_eq

/-- Whether and where a path leads depends on the working directory and the directories only. -/
theorem resolve_congr (hw : fs'.working = fs.working)
    (hd : ∀ l, fs.entry? l = some .directory → fs'.entry? l = some .directory)
    (h : fs.resolve path = .ok t) : fs'.resolve path = .ok t := by
  obtain ⟨followed, leads⟩ := fs.resolve_eq_ok_iff.mp h
  have start : fs'.start path = fs.start path := by rw [FileSystem.start, FileSystem.start, hw]
  refine fs'.resolve_eq_ok_iff.mpr ⟨followed, ?_⟩
  cases leads with
  | unnamed last walked => exact .unnamed last (start ▸ fs.walk_congr hd walked)
  | name split busy notUp walked fits =>
      exact .name split busy notUp (start ▸ fs.walk_congr hd walked) fits

/-- The location that a path leads to, if it leads anywhere. -/
def location? (path : Text) : Option Location := (fs.resolve path).toOption.map Target.location

theorem location?_eq_some_iff :
    fs.location? path = some l ↔ ∃ t, fs.resolve path = .ok t ∧ t.location = l := by
  unfold location?
  cases fs.resolve path with
  | error fault => simp [Except.toOption]
  | ok t => simp [Except.toOption]

theorem location?_congr (hw : fs'.working = fs.working)
    (hd : ∀ l, fs'.entry? l = some .directory ↔ fs.entry? l = some .directory) (path : Text) :
    fs'.location? path = fs.location? path := by
  ext l
  rw [location?_eq_some_iff, location?_eq_some_iff]
  constructor
  · rintro ⟨t, h, rfl⟩
    exact ⟨t, fs'.resolve_congr hw.symm (fun l => (hd l).mp) h, rfl⟩
  · rintro ⟨t, h, rfl⟩
    exact ⟨t, fs.resolve_congr hw (fun l => (hd l).mpr) h, rfl⟩

/-- A name at the end of the pieces that are not empty is the final name. -/
theorem splitFinal?_of_names {names : List Text} {last : Text}
    (h : Path.names path = names ++ [last]) (busy : isIdle last = false) (notUp : last ≠ up) :
    ∃ before, splitFinal? path = some (before, last) ∧
      (before.filter fun p => !p.isEmpty) = names := by
  obtain ⟨front, back, hp, hfront, hback⟩ := List.filter_eq_append_iff.mp h
  obtain ⟨gap, idle, rfl, hgap, -, hidle⟩ := List.filter_eq_cons_iff.mp hback
  refine ⟨front ++ gap, splitFinal?_eq_some_iff.mpr ⟨busy, notUp, idle, ?_, ?_⟩, ?_⟩
  · intro p hp
    have empty := List.filter_eq_nil_iff.mp hidle p hp
    obtain rfl : p = [] := by simpa using empty
    rfl
  · rw [hp, List.append_assoc]
  · rw [List.filter_append, hfront, List.filter_eq_nil_iff.mpr hgap, List.append_nil]

/-- A path without a final name leads where all its pieces lead. -/
theorem walk_of_location? (hf : splitFinal? path = none) (h : fs.location? path = some l) :
    fs.walk (fs.start path) (pieces path) = .ok l := by
  obtain ⟨t, resolved, rfl⟩ := fs.location?_eq_some_iff.mp h
  cases (fs.resolve_eq_ok_iff.mp resolved).2 with
  | unnamed last walked =>
      rw [← walk_filter]
      exact walked
  | name split busy notUp walked fits =>
      obtain ⟨before, final, -⟩ := splitFinal?_of_names split busy notUp
      rw [hf] at final
      exact (nomatch final)

/-- A path with a final name leads to that name, in the directory that the pieces before lead to. -/
theorem exists_walk_of_location? {before : List Text} {name : Text}
    (hf : splitFinal? path = some (before, name)) (h : fs.location? path = some l) :
    ∃ d, fs.walk (fs.start path) before = .ok d ∧ l = d ++ [name] := by
  obtain ⟨t, resolved, rfl⟩ := fs.location?_eq_some_iff.mp h
  cases (fs.resolve_eq_ok_iff.mp resolved).2 with
  | unnamed last walked =>
      obtain ⟨busy, notUp, idle, hidle, hp⟩ := splitFinal?_eq_some_iff.mp hf
      rw [Path.names, walk_filter, hp, ← List.singleton_append, walk_append] at walked
      obtain ⟨d, walkedBefore, walked⟩ := bind_eq_ok_iff.mp walked
      rw [walk_append_idle _ _ _ hidle] at walked
      exact ⟨d, walkedBefore, fs.walk_name busy notUp walked⟩
  | name split busy notUp walked fits =>
      obtain ⟨before', final, hbefore⟩ := splitFinal?_of_names split busy notUp
      rw [hf] at final
      cases final
      rw [← hbefore, walk_filter] at walked
      exact ⟨_, walked, rfl⟩

/-! ### Where the temporary path leads -/

theorem start_temporary : fs.start (temporary path) = fs.start path := by
  rw [start, start, isAbsolute_temporary]

/-- A name with the suffix counts as a name. -/
theorem splitFinal?_of_suffix {before : List Text} {name : Text}
    (h : pieces path = before ++ [name ++ suffix]) :
    splitFinal? path = some (before, name ++ suffix) := by
  have long : 4 ≤ (name ++ suffix).length := by simp [suffix]
  have busy : isIdle (name ++ suffix) = false := by
    apply Bool.eq_false_iff.mpr
    intro idle
    have : name ++ suffix = [] ∨ name ++ suffix = ['.'] := by simpa [isIdle] using idle
    obtain h | h := this <;> simp [h] at long
  have notUp : name ++ suffix ≠ up := by
    intro isUp
    simp [isUp, up] at long
  exact splitFinal?_eq_some_iff.mpr ⟨busy, notUp, [], by simp, h⟩

/-- The temporary path of a path with a final name leads to that name with the suffix, in the same
directory. -/
theorem location?_temporary_of_final {before : List Text} {name : Text}
    (hf : splitFinal? path = some (before, name)) {l' : Location}
    (h : fs.location? path = some l) (h' : fs.location? (temporary path) = some l') :
    ∃ d, l = d ++ [name] ∧ l' = d ++ [name ++ suffix] := by
  obtain ⟨d, walked, rfl⟩ := fs.exists_walk_of_location? hf h
  have hf' : splitFinal? (temporary path) = some (trimPieces before, name ++ suffix) :=
    splitFinal?_of_suffix (pieces_temporary_of_final hf)
  obtain ⟨d', walked', rfl⟩ := fs.exists_walk_of_location? hf' h'
  obtain ⟨idle, hidle, hb⟩ := trimPieces_append_idle before
  rw [start_temporary, ← fs.walk_append_idle _ _ hidle, ← hb, walked] at walked'
  cases walked'
  exact ⟨d, rfl, rfl⟩

/-- The temporary path of a path without a final name leads into the directory that the path leads
to. -/
theorem location?_temporary_of_no_final (hf : splitFinal? path = none) {l' : Location}
    (h : fs.location? path = some l) (h' : fs.location? (temporary path) = some l') :
    l' = l ++ [suffix] := by
  have walked := fs.walk_of_location? hf h
  obtain ⟨before, pushed, hp⟩ := pieces_temporary_of_no_final hf
  have hf' : splitFinal? (temporary path) = some (before, suffix) :=
    splitFinal?_of_suffix (List.nil_append suffix ▸ pushed)
  obtain ⟨d, walked', rfl⟩ := fs.exists_walk_of_location? hf' h'
  have same : fs.walk (fs.start path) (pieces path) = fs.walk (fs.start path) before := by
    obtain hp | hp := hp
    · rw [hp]
    · rw [hp, fs.walk_append_idle _ _ (by decide)]
  rw [start_temporary, ← same, walked] at walked'
  cases walked'
  rfl

/-- The temporary path never leads where the path leads. -/
theorem location?_temporary_ne (h : fs.location? path = some l) :
    fs.location? (temporary path) ≠ some l := by
  intro h'
  cases hf : splitFinal? path with
  | none => simpa using fs.location?_temporary_of_no_final hf h h'
  | some final =>
      obtain ⟨d, hl, hl'⟩ := fs.location?_temporary_of_final hf h h'
      have names : final.2 = final.2 ++ suffix :=
        List.singleton_inj.mp (List.append_cancel_left (hl.symm.trans hl'))
      simp [suffix] at names

end FileSystem
end LineGrammar
