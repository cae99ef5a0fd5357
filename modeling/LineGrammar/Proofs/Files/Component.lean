import LineGrammar.Proofs.Files.Replacement

/-! # The components of a path

What counts in a path are its components (`Path.components`): where it starts, and then the names
and the steps up, without the pieces that change nothing.  They lead where the pieces lead
(`FileSystem.enter_eq_walk`).

A path has a final name if its last component is a name.  The temporary path then has the components
of the path but for that name, which has the suffix, so that it leads into the very directory that
has the entry of the path; otherwise the suffix is one component more.  Either way the two paths have
different components, and a file is never renamed to itself (`Path.temporary_components`). -/

namespace LineGrammar

/-- What counts in a path. -/
inductive Path.Component where
  | root
  | current
  | up
  | name (text : Text)
  deriving DecidableEq, Repr

namespace Path

variable {path : Text}

/-- The component that a piece stands for, unless it changes nothing. -/
def Component.ofPiece? (piece : Text) : Option Component :=
  if isIdle piece then none else if piece = Path.up then some .up else some (.name piece)

/-- The component at which a path starts, if it has one that is neither a name nor a step up. -/
def origin (path : Text) : List Component :=
  if isAbsolute path then [.root]
  else if (pieces path).head? = some ['.'] then [.current]
  else []

/-- The components of a path.  The dot counts at the start only. -/
def components (path : Text) : List Component :=
  origin path ++ (pieces path).filterMap Component.ofPiece?

theorem Component.ofPiece?_name {piece : Text} (busy : isIdle piece = false)
    (notUp : piece ≠ Path.up) : ofPiece? piece = some (.name piece) := by
  unfold ofPiece?
  rw [if_neg (by simp [busy]), if_neg notUp]

theorem filterMap_ofPiece?_of_idle {ps : List Text} (h : ∀ p ∈ ps, isIdle p) :
    ps.filterMap Component.ofPiece? = [] := by
  apply List.filterMap_eq_nil_iff.mpr
  intro p hp
  unfold Component.ofPiece?
  rw [if_pos (h p hp)]

theorem filterMap_ofPiece?_trimPieces (ps : List Text) :
    (trimPieces ps).filterMap Component.ofPiece? = ps.filterMap Component.ofPiece? := by
  obtain ⟨idle, hidle, hps⟩ := trimPieces_append_idle ps
  calc (trimPieces ps).filterMap Component.ofPiece?
      = (trimPieces ps).filterMap Component.ofPiece? ++
          idle.filterMap Component.ofPiece? := by
        rw [filterMap_ofPiece?_of_idle hidle, List.append_nil]
    _ = ps.filterMap Component.ofPiece? := by rw [← List.filterMap_append, ← hps]

/-- Idle pieces at the end leave no component. -/
theorem filterMap_ofPiece?_append {before idle : List Text} {last : Text}
    (hidle : ∀ p ∈ idle, isIdle p) :
    (before ++ last :: idle).filterMap Component.ofPiece? =
      before.filterMap Component.ofPiece? ++ (Component.ofPiece? last).toList := by
  rw [List.append_cons, List.filterMap_append, filterMap_ofPiece?_of_idle hidle, List.append_nil,
    List.filterMap_append]
  cases h : Component.ofPiece? last <;> simp [h]

/-- A path with a final name has it as its last component. -/
theorem components_of_final {before : List Text} {name : Text}
    (h : splitFinal? path = some (before, name)) :
    components path =
      origin path ++ before.filterMap Component.ofPiece? ++ [.name name] := by
  obtain ⟨busy, notUp, idle, hidle, hp⟩ := splitFinal?_eq_some_iff.mp h
  unfold components
  rw [hp, filterMap_ofPiece?_append hidle, Component.ofPiece?_name busy notUp, List.append_assoc]
  rfl

/-- A path without a final name has no components but its origin, or leads up last. -/
theorem components_of_no_final (h : splitFinal? path = none) :
    components path = origin path ∨ ∃ before, components path = before ++ [.up] := by
  obtain allIdle | ⟨before, idle, hidle, hp⟩ := splitFinal?_eq_none_iff.mp h
  · left
    unfold components
    rw [filterMap_ofPiece?_of_idle allIdle, List.append_nil]
  · right
    refine ⟨origin path ++ before.filterMap Component.ofPiece?, ?_⟩
    unfold components
    rw [hp, filterMap_ofPiece?_append hidle, List.append_assoc]
    rfl

/-- The empty path is the only one without components. -/
theorem components_eq_nil_iff : components path = [] ↔ path = [] := by
  constructor
  · intro h
    obtain ⟨noOrigin, noPieces⟩ := List.append_eq_nil_iff.mp h
    by_contra nonempty
    obtain ⟨first, rest, hp⟩ := List.exists_cons_of_ne_nil (List.splitOn_ne_nil '/' path)
    have hp : pieces path = first :: rest := hp
    have idle : isIdle first := by
      have none := List.filterMap_eq_nil_iff.mp noPieces first (by simp [hp])
      unfold Component.ofPiece? at none
      by_contra busy
      rw [if_neg busy] at none
      split at none <;> exact (nomatch none)
    obtain rfl | rfl : first = [] ∨ first = ['.'] := by simpa [isIdle] using idle
    · cases rest with
      | nil =>
          apply nonempty
          calc path = ['/'].intercalate (pieces path) := (List.intercalate_splitOn '/').symm
            _ = [] := by rw [hp]; rfl
      | cons second rest => simp [origin, isAbsolute_eq, hp] at noOrigin
    · simp [origin, isAbsolute_eq, hp] at noOrigin
  · rintro rfl
    rfl

/-! ### The temporary path -/

theorem append_suffix_ne_dot (name : Text) : name ++ suffix ≠ ['.'] := by
  intro h
  have lengths := congrArg List.length h
  simp [suffix] at lengths

theorem origin_temporary : origin (temporary path) = origin path := by
  have heads : (pieces (temporary path)).head? = some ['.'] ↔
      (pieces path).head? = some ['.'] := by
    cases hf : splitFinal? path with
    | some final =>
        obtain ⟨before, name⟩ := final
        obtain ⟨busy, -, idle, -, hp⟩ := splitFinal?_eq_some_iff.mp hf
        rw [pieces_temporary_of_final hf, hp]
        cases before with
        | nil =>
            have noDot : name ≠ ['.'] := by
              rintro rfl
              exact absurd busy (by decide)
            simp [trimPieces, noDot, append_suffix_ne_dot]
        | cons first rest => simp [trimPieces]
    | none =>
        obtain ⟨before, pushed, hp⟩ := pieces_temporary_of_no_final hf
        rw [pushed]
        cases before with
        | nil =>
            obtain hp | hp := hp
            · exact absurd hp (List.splitOn_ne_nil '/' path)
            · rw [hp]
              decide
        | cons first rest => obtain hp | hp := hp <;> simp [hp]
  unfold origin
  simp only [isAbsolute_temporary, heads]

theorem components_temporary_of_final {before : List Text} {name : Text}
    (h : splitFinal? path = some (before, name)) :
    components (temporary path) =
      origin path ++ before.filterMap Component.ofPiece? ++ [.name (name ++ suffix)] := by
  have final := FileSystem.splitFinal?_of_suffix (pieces_temporary_of_final h)
  rw [components_of_final final, origin_temporary, filterMap_ofPiece?_trimPieces]

theorem components_temporary_of_no_final (h : splitFinal? path = none) :
    components (temporary path) = components path ++ [.name suffix] := by
  obtain ⟨before, pushed, hp⟩ := pieces_temporary_of_no_final h
  have same : before.filterMap Component.ofPiece? =
      (pieces path).filterMap Component.ofPiece? := by
    obtain hp | hp := hp
    · rw [hp]
    · rw [hp, filterMap_ofPiece?_append (by simp)]
      exact (List.append_nil _).symm
  have final : splitFinal? (temporary path) = some (before, suffix) :=
    FileSystem.splitFinal?_of_suffix (List.nil_append suffix ▸ pushed)
  rw [components_of_final final, origin_temporary, same, components]

theorem components_temporary_ne : components (temporary path) ≠ components path := by
  intro same
  cases hf : splitFinal? path with
  | none => simp [components_temporary_of_no_final hf] at same
  | some final =>
      rw [components_temporary_of_final hf, components_of_final hf] at same
      have names : final.2 ++ suffix = final.2 := by simpa using same
      simp [suffix] at names

end Path

/-! ### Following components -/

namespace FileSystem

open LineGrammar.Path

variable (fs : FileSystem) {path : Text} {l : Location}

/-- The directory that a component leads to from a directory. -/
def enterComponent (l : Location) : Component → Except FileFault Location
  | .root => .ok []
  | .current => .ok l
  | .up => .ok l.dropLast
  | .name name => fs.walk l [name]

/-- The directory that components lead to from the working directory. -/
def enter (components : List Component) : Except FileFault Location :=
  components.foldlM fs.enterComponent fs.working

theorem foldlM_enterComponent (l : Location) (ps : List Text) :
    (ps.filterMap Component.ofPiece?).foldlM fs.enterComponent l = fs.walk l ps := by
  induction ps generalizing l with
  | nil => rfl
  | cons piece ps ih =>
      cases idle : isIdle piece with
      | true =>
          rw [List.filterMap_cons_none (by simp [Component.ofPiece?, idle]), ih, walk, if_pos idle]
      | false =>
          by_cases isUp : piece = up
          · subst isUp
            exact ih l.dropLast
          · rw [List.filterMap_cons_some (Component.ofPiece?_name idle isUp), List.foldlM_cons,
              ← List.singleton_append, walk_append]
            exact congrArg _ (funext ih)

/-- Components lead where the pieces lead that they stand for. -/
theorem enter_eq_walk (path : Text) (ps : List Text) :
    fs.enter (origin path ++ ps.filterMap Component.ofPiece?) = fs.walk (fs.start path) ps := by
  have started : (origin path).foldlM fs.enterComponent fs.working = .ok (fs.start path) := by
    unfold origin start
    split
    · rfl
    · split <;> rfl
  rw [enter, List.foldlM_append, started]
  exact fs.foldlM_enterComponent _ ps

/-- That a path with a final name can be followed, if only the directories are there. -/
structure IsAccepted (path name : Text) : Prop where
  nul_not_mem : '\x00' ∉ path
  path_fits : Text.byteLength path < pathLimit
  name_fits : Text.byteLength name ≤ nameLimit

/-- A path that ends with a name leads to it, in the directory that the pieces before it lead to. -/
theorem location?_of_pieces {before : List Text} {name : Text} (hp : pieces path = before ++ [name])
    (busy : isIdle name = false) (notUp : name ≠ up) :
    fs.location? path = some l ↔
      IsAccepted path name ∧ ∃ d, fs.walk (fs.start path) before = .ok d ∧ l = d ++ [name] := by
  have final : splitFinal? path = some (before, name) :=
    splitFinal?_eq_some_iff.mpr ⟨busy, notUp, [], by simp, hp⟩
  have named : name ≠ [] := by
    rintro rfl
    exact absurd busy (by decide)
  have names : names path = before.filter (fun p => !p.isEmpty) ++ [name] := by
    rw [Path.names, hp, List.filter_append, List.filter_cons_of_pos (by simpa using named)]
    rfl
  constructor
  · intro h
    obtain ⟨t, resolved, -⟩ := fs.location?_eq_some_iff.mp h
    obtain ⟨⟨noNul, -, short⟩, leads⟩ := fs.resolve_eq_ok_iff.mp resolved
    refine ⟨⟨by simpa using noNul, short, ?_⟩, fs.exists_walk_of_location? final h⟩
    cases leads with
    | unnamed last walked =>
        obtain idle | isUp := last name (by simp [names])
        · simp [busy] at idle
        · exact absurd isUp notUp
    | name split _ _ _ fits =>
        rw [names] at split
        rwa [List.singleton_inj.mp (List.append_inj_right' split rfl)]
  · rintro ⟨accepted, d, walked, rfl⟩
    have nonempty : path ≠ [] := by
      rintro rfl
      simp [Path.names, pieces] at names
    refine fs.location?_eq_some_iff.mpr ⟨_, fs.resolve_eq_ok_iff.mpr
      ⟨⟨by simpa using accepted.nul_not_mem, nonempty, accepted.path_fits⟩,
        .name names busy notUp ?_ accepted.name_fits⟩, rfl⟩
    rwa [walk_filter]

/-- The temporary path of a path with a final name leads into the directory that the components
before the name lead to. -/
theorem location?_temporary_iff_of_final {before : List Text} {name : Text}
    (hf : splitFinal? path = some (before, name)) :
    fs.location? (temporary path) = some l ↔
      IsAccepted (temporary path) (name ++ suffix) ∧
        ∃ d, fs.enter (origin path ++ before.filterMap Component.ofPiece?) = .ok d ∧
          l = d ++ [name ++ suffix] := by
  have hp := pieces_temporary_of_final hf
  obtain ⟨busy, notUp, -⟩ := splitFinal?_eq_some_iff.mp (splitFinal?_of_suffix hp)
  rw [fs.location?_of_pieces hp busy notUp, start_temporary, ← enter_eq_walk,
    filterMap_ofPiece?_trimPieces]

/-- The temporary path of a path without a final name leads into the directory that its components
lead to. -/
theorem location?_temporary_iff_of_no_final (hf : splitFinal? path = none) :
    fs.location? (temporary path) = some l ↔
      IsAccepted (temporary path) suffix ∧
        ∃ d, fs.enter (components path) = .ok d ∧ l = d ++ [suffix] := by
  obtain ⟨before, hp, hb⟩ := pieces_temporary_of_no_final hf
  have same : fs.walk (fs.start path) before = fs.enter (components path) := by
    rw [components, enter_eq_walk]
    obtain hb | hb := hb
    · rw [hb]
    · rw [hb, fs.walk_append_idle _ _ (by decide)]
  rw [fs.location?_of_pieces hp (by decide) (by decide), start_temporary, same]

end FileSystem

/-! ### Renaming -/

theorem FileEvent.mem_of_mem_success {actions : List FileAction} {action : FileAction}
    {result : Except FileFault Unit} (h : .act action result ∈ actions.map success) :
    action ∈ actions := by
  obtain ⟨a, ha, same⟩ := List.mem_map.mp h
  cases same
  exact ha

namespace FileProgram

/-- What is tried up to the first failure of a replacement is one of its operations. -/
theorem mem_replaceActions_of_split {path : Text} {bytes : ByteArray}
    {before rest : List FileAction} {action tried : FileAction} {fault : FileFault}
    {result : Except FileFault Unit}
    (split : replaceActions path bytes = before ++ action :: rest)
    (h : FileEvent.act tried result ∈
      before.map FileEvent.success ++ [.act action (.error fault)]) :
    tried ∈ replaceActions path bytes := by
  rw [split]
  obtain early | last := List.mem_append.mp h
  · exact List.mem_append_left _ (FileEvent.mem_of_mem_success early)
  · cases List.mem_singleton.mp last
    exact List.mem_append_right _ List.mem_cons_self

/-- The only renaming in a replacement is from the temporary path to the path. -/
theorem Replacing.of_rename {path : Text} {bytes : ByteArray} {fs fs' : FileSystem}
    {events : List FileEvent} {result : Option (Except FileFault Unit)}
    (h : Replacing path bytes fs events result fs') {source target : Text}
    {outcome : Except FileFault Unit}
    (renamed : .act (.rename source target) outcome ∈ events) :
    source = Path.temporary path ∧ target = path := by
  have listed : FileAction.rename source target ∈ replaceActions path bytes := by
    cases h with
    | underway split performed =>
        rw [split]
        exact List.mem_append_left _ (FileEvent.mem_of_mem_success renamed)
    | complete performed => exact FileEvent.mem_of_mem_success renamed
    | failed split performed failure => exact mem_replaceActions_of_split split renamed
    | settled split performed failure removal =>
        rw [List.append_cons] at renamed
        obtain early | removed := List.mem_append.mp renamed
        · exact mem_replaceActions_of_split split early
        · cases List.mem_singleton.mp removed
  simpa [replaceActions] using listed

end FileProgram

namespace Path

/-- **The temporary path is next to the path and is another one.**  If the path has a final name,
that is its last component, and the temporary path has the same components but for this one, which
has the suffix; so it leads into the very directory that has what the path leads to.  If not, the
path is empty, a dot or the root, or it leads up last, and the temporary path has the suffix as one
component more.

So the two paths differ, and whatever fails while the document of a grammar is written, no file is
renamed to itself. -/
theorem temporary_components (path : Text) :
    (∀ name, finalName? path = some name → ∃ before : List Component,
      components path = before ++ [.name name] ∧
      components (temporary path) = before ++ [.name (name ++ suffix)] ∧
      ∀ (fs : FileSystem) (l : Location),
        (fs.location? path = some l → ∃ d, fs.enter before = .ok d ∧ l = d ++ [name]) ∧
        (fs.location? (temporary path) = some l ↔
          FileSystem.IsAccepted (temporary path) (name ++ suffix) ∧
            ∃ d, fs.enter before = .ok d ∧ l = d ++ [name ++ suffix])) ∧
    (finalName? path = none →
      (path = [] ∨ components path = [.current] ∨ components path = [.root] ∨
        ∃ before, components path = before ++ [.up]) ∧
      components (temporary path) = components path ++ [.name suffix] ∧
      ∀ (fs : FileSystem) (l : Location),
        fs.location? (temporary path) = some l ↔
          FileSystem.IsAccepted (temporary path) suffix ∧
            ∃ d, fs.enter (components path) = .ok d ∧ l = d ++ [suffix]) ∧
    components (temporary path) ≠ components path ∧
    ∀ (g : Grammar) (o : DocumentOptions) (fs fs' : FileSystem) (events : List FileEvent)
      (q : FileProgram (Except ConversionError Unit)),
      (g.save o path).Execution fs events q fs' →
        ∀ source target result, .act (.rename source target) result ∈ events →
          (source = temporary path ∧ target = path) ∧ components source ≠ components target ∧
            ∀ (fs : FileSystem) (l : Location),
              fs.location? target = some l → fs.location? source ≠ some l := by
  refine ⟨fun name h => ?_, fun h => ?_, components_temporary_ne, ?_⟩
  · obtain ⟨⟨before, name⟩, hf, rfl⟩ := Option.map_eq_some_iff.mp h
    refine ⟨origin path ++ before.filterMap Component.ofPiece?, components_of_final hf,
      components_temporary_of_final hf, fun fs l =>
        ⟨fun hl => ?_, fs.location?_temporary_iff_of_final hf⟩⟩
    rw [fs.enter_eq_walk]
    exact fs.exists_walk_of_location? hf hl
  · have hf : splitFinal? path = none := Option.map_eq_none_iff.mp h
    refine ⟨?_, components_temporary_of_no_final hf,
      fun fs l => fs.location?_temporary_iff_of_no_final hf⟩
    obtain alone | leadsUp := components_of_no_final hf
    · rw [← components_eq_nil_iff, alone]
      unfold origin
      split
      · exact .inr (.inr (.inl rfl))
      · split
        · exact .inr (.inl rfl)
        · exact .inl rfl
    · exact .inr (.inr (.inr leadsUp))
  · intro g o fs fs' events q execution source target result renamed
    obtain ⟨_, replacing, -⟩ := g.replacing_of_save o execution
    obtain ⟨rfl, rfl⟩ := replacing.of_rename renamed
    exact ⟨⟨rfl, rfl⟩, components_temporary_ne, fun fs l => fs.location?_temporary_ne⟩

/-- A path with more slashes and dots than it needs, whose name is that of a directory, so that the
renaming fails; and a path that leads up last. -/
theorem temporary_components_dots :
    let path := "//a/./b//.".toList
    let there : Location := [['a'], ['b']]
    let fs : FileSystem := { entries := [([['a']], .directory), (there, .directory)] }
    finalName? path = some ['b'] ∧
      components (temporary path) = [.root, .name ['a'], .name "b.tmp".toList] ∧
      fs.location? path = some there ∧
      fs.location? (temporary path) = some [['a'], "b.tmp".toList] ∧
      finalName? "a/../".toList = none ∧
      components (temporary "a/../".toList) = [.name ['a'], .up, .name ".tmp".toList] ∧
      ∃ fs' events q, (Grammar.empty.save {} path).Execution fs events q fs' ∧
        .act (.rename "//a/b.tmp".toList path) (.error .isDirectory) ∈ events ∧
        fs.location? "//a/b.tmp".toList ≠ some there := by
  intro path there fs
  obtain ⟨final, -, -, renames⟩ := temporary_components path
  have name : finalName? path = some ['b'] := by decide
  have noName : finalName? "a/../".toList = none := by decide
  have pathComponents : components path = [.root, .name ['a']] ++ [.name ['b']] := by decide
  obtain ⟨before, whole, beside, leads⟩ := final _ name
  obtain rfl : before = [.root, .name ['a']] :=
    List.append_cancel_right (whole.symm.trans pathComponents)
  have location : fs.location? path = some there := rfl
  have entered : fs.enter [.root, .name ['a']] = .ok [['a']] := rfl
  have accepted : FileSystem.IsAccepted (temporary path) (['b'] ++ suffix) :=
    ⟨by decide, by decide, by decide⟩
  let bytes := Text.encode (Grammar.empty.document {})
  let fs₁ : FileSystem := fs.put [['a'], "b.tmp".toList] (.file .empty)
  let fs₂ : FileSystem := fs₁.put [['a'], "b.tmp".toList] (.file (.empty ++ bytes))
  have created : (FileAction.create "//a/b.tmp".toList).perform fs = .ok fs₁ := rfl
  have written : (FileAction.write "//a/b.tmp".toList bytes).perform fs₁ = .ok fs₂ := rfl
  have synced : (FileAction.sync "//a/b.tmp".toList).perform fs₂ = .ok fs₂ := rfl
  have execution : (Grammar.empty.save {} path).Execution fs
      [.act (.create "//a/b.tmp".toList) (.ok ()), .act (.write "//a/b.tmp".toList bytes) (.ok ()),
        .act (.sync "//a/b.tmp".toList) (.ok ()),
        .act (.rename "//a/b.tmp".toList path) (.error .isDirectory)] _ fs₂ :=
    .act (.performed created) (.act (.performed written) (.act (.performed synced)
      (.act (.failed _ .isDirectory) (.start _ _))))
  obtain ⟨-, -, elsewhere⟩ := renames _ _ _ _ _ _ execution "//a/b.tmp".toList path
    (.error .isDirectory) (by simp)
  exact ⟨name, beside, location, (leads fs _).2.mpr ⟨accepted, _, entered, rfl⟩, noName,
    ((temporary_components _).2.1 noName).2.1, _, _, _, execution, by simp,
    elsewhere fs there location⟩

end Path
end LineGrammar
