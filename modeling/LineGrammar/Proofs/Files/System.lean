import LineGrammar.Proofs.Files.Location

/-! # What file operations change

What each operation has done if it succeeded, told by the locations that its paths lead to
(`exists_of_create` and the like), and what its paths lead to afterwards.

No operation changes the working directory or which locations are directories, so every path keeps
leading where it led.  File systems are compared by what they hold: `AgreesOff` says that two of
them differ at most at the locations that some paths lead to. -/

namespace LineGrammar.FileSystem

variable {fs fs' fs₁ : FileSystem} {path : Text} {l : Location}

theorem entry?_of_ne_nil (fs : FileSystem) {l : Location} (hl : l ≠ []) :
    fs.entry? l = fs.entries.lookup l := by
  unfold entry?
  rw [if_neg (by simpa using hl)]

theorem lookup_filter_ne (entries : List (Location × Entry)) (l l' : Location) :
    (entries.filter fun p => p.1 != l).lookup l' =
      if l' = l then none else entries.lookup l' := by
  induction entries with
  | nil => simp
  | cons p entries ih =>
      obtain ⟨k, e⟩ := p
      by_cases hk : k = l
      · rw [List.filter_cons_of_neg (by simpa using hk), ih]
        by_cases hl : l' = l
        · rw [if_pos hl, if_pos hl]
        · rw [if_neg hl, if_neg hl, List.lookup_cons, beq_false_of_ne (hk ▸ hl)]
      · rw [List.filter_cons_of_pos (by simpa using hk), List.lookup_cons, List.lookup_cons, ih]
        by_cases hl : l' = l
        · rw [if_pos hl, if_pos hl, beq_false_of_ne (hl ▸ Ne.symm hk)]
        · rw [if_neg hl, if_neg hl]

theorem entry?_put (fs : FileSystem) {l : Location} (hl : l ≠ []) (e : Entry) (l' : Location) :
    entry? (fs.put l e) l' = if l' = l then some e else fs.entry? l' := by
  unfold put
  by_cases h : l' = l
  · rw [if_pos h, h, entry?_of_ne_nil _ hl, List.lookup_cons_self]
  · unfold entry?
    rw [if_neg h, List.lookup_cons, beq_false_of_ne h, lookup_filter_ne, if_neg h]

theorem entry?_erase (fs : FileSystem) {l : Location} (hl : l ≠ []) (l' : Location) :
    entry? (fs.erase l) l' = if l' = l then none else fs.entry? l' := by
  unfold erase
  by_cases h : l' = l
  · rw [if_pos h, h, entry?_of_ne_nil _ hl, lookup_filter_ne, if_pos rfl]
  · unfold entry?
    rw [if_neg h, lookup_filter_ne, if_neg h]

/-- The entry that a path leads to. -/
def at? (fs : FileSystem) (path : Text) : Option Entry := (fs.location? path).bind fs.entry?

theorem at?_of_location? (h : fs.location? path = some l) : fs.at? path = fs.entry? l := by
  rw [at?, h, Option.bind_some]

/-! ### File systems that agree -/

/-- That two file systems differ at most in the entries that some paths lead to, and that these are
not directories in either of them. -/
structure AgreesOff (fs : FileSystem) (paths : List Text) (fs' : FileSystem) : Prop where
  working : fs'.working = fs.working
  directory (l : Location) : fs'.entry? l = some .directory ↔ fs.entry? l = some .directory
  /-- The same entries are elsewhere. -/
  entry (l : Location) (h : ∀ path ∈ paths, fs.location? path ≠ some l) :
    fs'.entry? l = fs.entry? l

namespace AgreesOff

variable {paths paths' : List Text}

theorem refl (fs : FileSystem) (paths : List Text) : fs.AgreesOff paths fs :=
  ⟨rfl, fun _ => Iff.rfl, fun _ _ => rfl⟩

theorem mono (h : fs.AgreesOff paths fs') (hp : paths ⊆ paths') : fs.AgreesOff paths' fs' :=
  ⟨h.working, h.directory, fun l hl => h.entry l fun path hpath => hl path (hp hpath)⟩

/-- Every path leads where it led. -/
theorem location?_eq (h : fs.AgreesOff paths fs') (path : Text) :
    fs'.location? path = fs.location? path :=
  fs.location?_congr h.working h.directory path

theorem trans (h : fs.AgreesOff paths fs₁) (h' : fs₁.AgreesOff paths' fs') :
    fs.AgreesOff (paths ++ paths') fs' where
  working := h'.working.trans h.working
  directory l := (h'.directory l).trans (h.directory l)
  entry l hl := by
    rw [h'.entry l, h.entry l]
    · intro path hpath
      exact hl path (List.mem_append_left _ hpath)
    · intro path hpath
      rw [h.location?_eq]
      exact hl path (List.mem_append_right _ hpath)

theorem at?_eq (h : fs.AgreesOff paths fs')
    (hl : ∀ l, fs.location? path = some l → ∀ p ∈ paths, fs.location? p ≠ some l) :
    fs'.at? path = fs.at? path := by
  unfold at?
  rw [h.location?_eq]
  cases hpath : fs.location? path with
  | none => rfl
  | some l => exact h.entry l (hl l hpath)

/-- A file put where a path leads, in place of a file or of nothing. -/
theorem of_put (hl : fs.location? path = some l) (named : l ≠ [])
    (free : fs.entry? l ≠ some .directory) (contents : ByteArray) :
    fs.AgreesOff [path] (fs.put l (.file contents)) where
  working := rfl
  directory l' := by
    rw [fs.entry?_put named]
    split
    · simp_all
    · rfl
  entry l' h := by
    rw [fs.entry?_put named, if_neg]
    rintro rfl
    exact h path List.mem_cons_self hl

/-- A file taken away from where a path leads. -/
theorem of_erase (hl : fs.location? path = some l) (named : l ≠ [])
    (free : fs.entry? l ≠ some .directory) : fs.AgreesOff [path] (fs.erase l) where
  working := rfl
  directory l' := by
    rw [fs.entry?_erase named]
    split
    · simp_all
    · rfl
  entry l' h := by
    rw [fs.entry?_erase named, if_neg]
    rintro rfl
    exact h path List.mem_cons_self hl

end AgreesOff

/-! ### Operations -/

theorem location?_of_name {directory : Location} {name : Text} {slash : Bool}
    (h : fs.resolve path = .ok (.name directory name slash)) :
    fs.location? path = some (directory ++ [name]) :=
  fs.location?_eq_some_iff.mpr ⟨_, h, rfl⟩

theorem exists_of_create (h : fs.create path = .ok fs') :
    ∃ l, fs.location? path = some l ∧ l ≠ [] ∧ fs.entry? l ≠ some .directory ∧
      fs' = fs.put l (.file .empty) := by
  obtain ⟨t, resolved, h⟩ := bind_eq_ok_iff.mp h
  cases t with
  | unnamed directory => exact (nomatch h)
  | name directory name slash =>
      cases slash with
      | true => exact (nomatch h)
      | false =>
          simp only [Bool.false_eq_true, if_false] at h
          split at h
          · exact (nomatch h)
          · rename_i free
            cases h
            exact ⟨_, location?_of_name resolved, by simp, free, rfl⟩

theorem exists_of_write {bytes : ByteArray} (h : fs.write path bytes = .ok fs') :
    ∃ l contents, fs.location? path = some l ∧ l ≠ [] ∧ fs.entry? l = some (.file contents) ∧
      fs' = fs.put l (.file (contents ++ bytes)) := by
  obtain ⟨t, resolved, h⟩ := bind_eq_ok_iff.mp h
  cases t with
  | unnamed directory => exact (nomatch h)
  | name directory name slash =>
      simp only at h
      split at h
      · exact (nomatch h)
      · exact (nomatch h)
      · rename_i there
        cases h
        exact ⟨_, _, location?_of_name resolved, by simp, there, rfl⟩

theorem eq_of_sync (h : fs.sync path = .ok fs') : fs' = fs := by
  obtain ⟨contents, -, h⟩ := bind_eq_ok_iff.mp h
  cases h
  rfl

theorem exists_of_remove (h : fs.remove path = .ok fs') :
    ∃ l contents, fs.location? path = some l ∧ l ≠ [] ∧ fs.entry? l = some (.file contents) ∧
      fs' = fs.erase l := by
  obtain ⟨t, resolved, h⟩ := bind_eq_ok_iff.mp h
  cases t with
  | unnamed directory => exact (nomatch h)
  | name directory name slash =>
      simp only at h
      split at h
      · exact (nomatch h)
      · exact (nomatch h)
      · rename_i there
        split at h
        · exact (nomatch h)
        · cases h
          exact ⟨_, _, location?_of_name resolved, by simp, there, rfl⟩

theorem exists_of_rename {source target : Text} (h : fs.rename source target = .ok fs') :
    ∃ l l' contents, fs.location? source = some l ∧ l ≠ [] ∧
      fs.entry? l = some (.file contents) ∧
      fs.location? target = some l' ∧ l' ≠ [] ∧ fs.entry? l' ≠ some .directory ∧
      fs' = (fs.erase l).put l' (.file contents) := by
  obtain ⟨s, resolved, h⟩ := bind_eq_ok_iff.mp h
  obtain ⟨t, resolved', h⟩ := bind_eq_ok_iff.mp h
  cases s with
  | unnamed directory => exact (nomatch h)
  | name directory name slash =>
    cases t with
    | unnamed directory => exact (nomatch h)
    | name directory' name' slash' =>
        simp only at h
        split at h
        · exact (nomatch h)
        · exact (nomatch h)
        · rename_i there
          split at h
          · exact (nomatch h)
          · split at h
            · exact (nomatch h)
            · rename_i free
              cases h
              exact ⟨_, _, _, location?_of_name resolved, by simp, there,
                location?_of_name resolved', by simp, free, rfl⟩

/-! ### What paths lead to after an operation -/

theorem at?_put (hl : fs.location? path = some l) (named : l ≠ [])
    (free : fs.entry? l ≠ some .directory) (contents : ByteArray) :
    (fs.put l (.file contents)).at? path = some (.file contents) := by
  have there := (AgreesOff.of_put hl named free contents).location?_eq path
  rw [at?_of_location? (there.trans hl), fs.entry?_put named, if_pos rfl]

theorem at?_erase (hl : fs.location? path = some l) (named : l ≠ [])
    (free : fs.entry? l ≠ some .directory) : (fs.erase l).at? path = none := by
  have there := (AgreesOff.of_erase hl named free).location?_eq path
  rw [at?_of_location? (there.trans hl), fs.entry?_erase named, if_pos rfl]

theorem at?_create (h : fs.create path = .ok fs') : fs'.at? path = some (.file .empty) := by
  obtain ⟨l, hl, named, free, rfl⟩ := exists_of_create h
  exact at?_put hl named free .empty

theorem at?_write {bytes : ByteArray} (h : fs.write path bytes = .ok fs') :
    ∃ contents, fs.at? path = some (.file contents) ∧
      fs'.at? path = some (.file (contents ++ bytes)) := by
  obtain ⟨l, contents, hl, named, there, rfl⟩ := exists_of_write h
  exact ⟨contents, (at?_of_location? hl).trans there, at?_put hl named (by simp [there]) _⟩

theorem at?_remove (h : fs.remove path = .ok fs') : fs'.at? path = none := by
  obtain ⟨l, contents, hl, named, there, rfl⟩ := exists_of_remove h
  exact at?_erase hl named (by simp [there])

/-- The target of a renaming has the contents of the source, which is gone unless both paths lead to
the same location. -/
theorem at?_rename {source target : Text} (h : fs.rename source target = .ok fs') :
    ∃ contents, fs.at? source = some (.file contents) ∧
      fs'.at? target = some (.file contents) ∧
      (fs.location? source ≠ fs.location? target → fs'.at? source = none) := by
  obtain ⟨l, l', contents, hl, named, there, hl', named', free, rfl⟩ := exists_of_rename h
  have erased := AgreesOff.of_erase hl named (by simp [there])
  have free' : entry? (fs.erase l) l' ≠ some .directory := by rwa [ne_eq, erased.directory]
  have target' := (erased.location?_eq target).trans hl'
  have put := AgreesOff.of_put target' named' free' contents
  refine ⟨contents, (at?_of_location? hl).trans there, at?_put target' named' free' contents, ?_⟩
  intro apart
  rw [put.at?_eq, at?_erase hl named (by simp [there])]
  rintro l₁ hl₁ p hp
  obtain rfl : p = target := by simpa using hp
  rw [erased.location?_eq] at hl₁ ⊢
  rw [← hl₁]
  exact apart.symm

end LineGrammar.FileSystem
