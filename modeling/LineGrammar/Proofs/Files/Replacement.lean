import LineGrammar.Files.Grammar
import LineGrammar.Proofs.Files.Execution

/-! # Files are replaced at once

Whatever fails while a file gets new contents, and wherever it stops, the file is as it was or has
exactly the new contents (`Grammar.save_atomic`).

An execution of `FileProgram.replace` is in one of four situations (`Replacing`): on the way, done,
before the removal of the temporary file, or after it.  Before the file is renamed only the
temporary path has changed, which never leads where the path leads. -/

namespace LineGrammar

open FileSystem
open FileAction (Performs)

variable {fs fs' : FileSystem} {path : Text} {bytes : ByteArray}

namespace FileProgram

/-- The operations that give a file new contents. -/
def replaceActions (path : Text) (bytes : ByteArray) : List FileAction :=
  [.create (Path.temporary path), .write (Path.temporary path) bytes,
    .sync (Path.temporary path), .rename (Path.temporary path) path]

/-- What follows on these operations: if one of them has failed, the temporary file is removed. -/
def settle (path : Text) : Except FileFault Unit → FileProgram (Except FileFault Unit)
  | .ok () => done (.ok ())
  | .error fault => .act (.remove (Path.temporary path)) fun _ => done (.error fault)

theorem replace_eq :
    replace path bytes = (actAll (replaceActions path bytes)).bind (settle path) := by
  unfold replace settle
  congr 1

/-- How far the replacement of a file has come: what has happened, the result if there is one, and
the file system by now. -/
inductive Replacing (path : Text) (bytes : ByteArray) (fs : FileSystem) :
    List FileEvent → Option (Except FileFault Unit) → FileSystem → Prop
  | underway {before rest : List FileAction} {action : FileAction} {fs' : FileSystem}
      (split : replaceActions path bytes = before ++ action :: rest)
      (performed : Performs fs before fs') :
      Replacing path bytes fs (before.map .success) none fs'
  | complete {fs' : FileSystem} (performed : Performs fs (replaceActions path bytes) fs') :
      Replacing path bytes fs ((replaceActions path bytes).map .success) (some (.ok ())) fs'
  | failed {before rest : List FileAction} {action : FileAction} {fault : FileFault}
      {fs₁ fs' : FileSystem} (split : replaceActions path bytes = before ++ action :: rest)
      (performed : Performs fs before fs₁) (failure : action.Outcome fs₁ (.error fault) fs') :
      Replacing path bytes fs (before.map .success ++ [.act action (.error fault)]) none fs'
  /-- An operation has failed, and the temporary file has been removed or not. -/
  | settled {before rest : List FileAction} {action : FileAction} {fault : FileFault}
      {fs₁ fs₂ fs' : FileSystem} {result : Except FileFault Unit}
      (split : replaceActions path bytes = before ++ action :: rest)
      (performed : Performs fs before fs₁) (failure : action.Outcome fs₁ (.error fault) fs₂)
      (removal : (FileAction.remove (Path.temporary path)).Outcome fs₂ result fs') :
      Replacing path bytes fs
        (before.map .success ++
          [.act action (.error fault), .act (.remove (Path.temporary path)) result])
        (some (.error fault)) fs'

theorem Execution.of_replace {events : List FileEvent}
    {q : FileProgram (Except FileFault Unit)}
    (h : (replace path bytes).Execution fs events q fs') :
    Replacing path bytes fs events q.result? fs' := by
  rw [replace_eq] at h
  obtain ⟨p', rfl, inner⟩ | ⟨result, fs₁, events₁, events₂, rfl, inner, outer⟩ := h.of_bind
  · obtain ⟨before, rest, split, performed, rfl, rfl⟩ |
        ⟨before, action, rest, fs₁, fault, split, performed, failure, rfl, rfl⟩ :=
      Execution.of_actAll inner
    · cases rest with
      | nil =>
          obtain rfl : replaceActions path bytes = before := by rw [split, List.append_nil]
          exact .complete performed
      | cons action rest => exact .underway split performed
    · exact .failed split performed failure
  · obtain ⟨before, rest, split, performed, finished, rfl⟩ |
        ⟨before, action, rest, fs₂, fault, split, performed, failure, finished, rfl⟩ :=
      Execution.of_actAll inner
    · cases rest with
      | nil =>
          cases finished
          obtain rfl : replaceActions path bytes = before := by rw [split, List.append_nil]
          obtain ⟨rfl, rfl, rfl⟩ := outer.of_done
          rw [List.append_nil]
          exact .complete performed
      | cons action rest => exact (nomatch finished)
    · cases finished
      cases outer with
      | start => 
        rw [List.append_nil]
        exact .failed split performed failure
      | act removal rest =>
        obtain ⟨rfl, rfl, rfl⟩ := rest.of_done
        rw [List.append_assoc]
        exact .settled split performed failure removal

end FileProgram

/-! ### The temporary file -/

theorem FileAction.Performs.agreesOff {actions : List FileAction} (h : Performs fs actions fs') :
    fs.AgreesOff (actions.flatMap FileAction.files) fs' := by
  induction h with
  | nil fs => exact .refl fs []
  | cons first rest ih => exact (FileAction.agreesOff_perform first).trans ih

/-- What changes the temporary file only leaves the file as it was. -/
theorem FileSystem.AgreesOff.at?_of_temporary (h : fs.AgreesOff [Path.temporary path] fs') :
    fs'.at? path = fs.at? path := by
  apply h.at?_eq
  intro l hl p hp
  obtain rfl : p = Path.temporary path := by simpa using hp
  exact fs.location?_temporary_ne hl

/-- A temporary file is not the file that it is made for. -/
theorem FileSystem.location?_temporary_ne_self {e : Entry}
    (h : fs.at? (Path.temporary path) = some e) :
    fs.location? (Path.temporary path) ≠ fs.location? path := by
  obtain ⟨l, hl, -⟩ := Option.bind_eq_some_iff.mp h
  rw [hl]
  intro same
  exact fs.location?_temporary_ne same.symm hl

namespace FileProgram

variable {before rest : List FileAction} {action : FileAction}

/-- The operations before the last one change the temporary file only. -/
theorem files_of_split (split : replaceActions path bytes = before ++ action :: rest) :
    before.flatMap FileAction.files ⊆ [Path.temporary path] := by
  have initial : before <+: [.create (Path.temporary path), .write (Path.temporary path) bytes,
      .sync (Path.temporary path)] ++ [.rename (Path.temporary path) path] :=
    ⟨action :: rest, split.symm⟩
  have early := (List.prefix_concat_iff.mp initial).resolve_left fun whole => by
    simp [whole, replaceActions] at split
  intro p hp
  obtain ⟨a, ha, hp⟩ := List.mem_flatMap.mp hp
  obtain rfl | rfl | rfl : a = .create (Path.temporary path) ∨
      a = .write (Path.temporary path) bytes ∨ a = .sync (Path.temporary path) := by
    simpa using early.subset ha
  · exact hp
  · exact hp
  · exact (nomatch hp)

/-- An operation that fails changes the temporary file at most. -/
theorem changed_of_split (split : replaceActions path bytes = before ++ action :: rest)
    (fault : FileFault) : action.changed (.error fault) ⊆ [Path.temporary path] := by
  have listed : action ∈ replaceActions path bytes := by simp [split]
  obtain rfl | rfl | rfl | rfl : action = .create (Path.temporary path) ∨
      action = .write (Path.temporary path) bytes ∨ action = .sync (Path.temporary path) ∨
        action = .rename (Path.temporary path) path := by
    simpa [replaceActions] using listed
  · exact List.nil_subset _
  · exact List.Subset.refl _
  · exact List.nil_subset _
  · exact List.nil_subset _

/-- When all operations have succeeded, the file has the new contents and the temporary file is
gone. -/
theorem at?_of_performs (h : Performs fs (replaceActions path bytes) fs') :
    fs'.at? path = some (.file bytes) ∧ fs'.at? (Path.temporary path) = none := by
  unfold replaceActions at h
  cases h with
  | @cons _ _ _ fs₁ _ created h =>
  cases h with
  | @cons _ _ _ fs₂ _ written h =>
  cases h with
  | @cons _ _ _ fs₃ _ synced h =>
  cases h with
  | cons renamed h =>
  cases h
  have empty : fs₁.at? (Path.temporary path) = some (.file .empty) := at?_create created
  obtain ⟨contents, there, filled⟩ := at?_write written
  obtain rfl : ByteArray.empty = contents := by simpa [empty] using there
  obtain ⟨contents', there', replaced, gone⟩ := at?_rename renamed
  obtain rfl : fs₃ = fs₂ := eq_of_sync synced
  obtain rfl : bytes = contents' := by simpa [filled] using there'
  exact ⟨replaced, gone (location?_temporary_ne_self filled)⟩

namespace Replacing

variable {events : List FileEvent} {result : Option (Except FileFault Unit)}

/-- As long as the replacement has not succeeded, only the temporary file has changed. -/
theorem agreesOff_temporary (h : Replacing path bytes fs events result fs')
    (pending : result ≠ some (.ok ())) : fs.AgreesOff [Path.temporary path] fs' := by
  cases h with
  | underway split performed => exact performed.agreesOff.mono (files_of_split split)
  | complete performed => exact absurd rfl pending
  | failed split performed failure =>
      have changed := performed.agreesOff.trans failure.agreesOff
      exact changed.mono
        (List.append_subset.mpr ⟨files_of_split split, changed_of_split split _⟩)
  | @settled _ _ _ _ _ _ _ removed split performed failure removal =>
      have changed := (performed.agreesOff.trans failure.agreesOff).trans removal.agreesOff
      have removed : (FileAction.remove (Path.temporary path)).changed removed ⊆
          [Path.temporary path] := by
        cases removed with
        | ok => exact List.Subset.refl _
        | error fault => exact List.nil_subset _
      exact changed.mono (List.append_subset.mpr
        ⟨List.append_subset.mpr ⟨files_of_split split, changed_of_split split _⟩, removed⟩)

/-- Nothing else than the file and the temporary file is ever changed. -/
theorem agreesOff (h : Replacing path bytes fs events result fs') :
    fs.AgreesOff [path, Path.temporary path] fs' := by
  by_cases hr : result = some (.ok ())
  · subst hr
    cases h with
    | complete performed =>
        apply performed.agreesOff.mono
        simp [replaceActions, FileAction.files]
  · exact (h.agreesOff_temporary hr).mono (List.subset_cons_self _ _)

theorem at?_of_ok (h : Replacing path bytes fs events (some (.ok ())) fs') :
    fs'.at? path = some (.file bytes) ∧ fs'.at? (Path.temporary path) = none := by
  cases h with
  | complete performed => exact at?_of_performs performed

theorem not_mem_of_ok (h : Replacing path bytes fs events (some (.ok ())) fs')
    (action : FileAction) (fault : FileFault) : .act action (.error fault) ∉ events := by
  cases h with
  | complete performed => simp [replaceActions, FileEvent.success]

/-- The failure that is reported is the first one. -/
theorem first_of_error {fault : FileFault}
    (h : Replacing path bytes fs events (some (.error fault)) fs') :
    ∃ (before : List FileAction) (action : FileAction) (after : List FileEvent),
      events = before.map .success ++ .act action (.error fault) :: after := by
  cases h with
  | settled split performed failure removal => exact ⟨_, _, _, rfl⟩

/-- When the replacement has failed, the temporary file is gone unless its removal failed too. -/
theorem temporary_of_error {fault : FileFault}
    (h : Replacing path bytes fs events (some (.error fault)) fs') :
    fs'.at? (Path.temporary path) = none ∨
      ∃ fault', .act (.remove (Path.temporary path)) (.error fault') ∈ events := by
  cases h with
  | settled split performed failure removal =>
      cases removal with
      | performed removed => exact .inl (at?_remove removed)
      | failed action fault' => exact .inr ⟨fault', by simp⟩

end Replacing
end FileProgram

namespace Grammar

variable (g : Grammar) (o : DocumentOptions) {events : List FileEvent}
  {q : FileProgram (Except ConversionError Unit)}

/-- Writing the document of a grammar is a replacement, whose failure is reported under the path. -/
theorem replacing_of_save (h : (g.save o path).Execution fs events q fs') :
    ∃ result, FileProgram.Replacing path (Text.encode (g.document o)) fs events result fs' ∧
      (q = .done (.ok ()) → result = some (.ok ())) ∧
      ∀ e, q = .done (.error e) → ∃ fault, result = some (.error fault) ∧ e = .file path fault := by
  obtain ⟨p', inner, hq⟩ := h.of_map
  have replacing := inner.of_replace
  generalize p'.result? = result at hq replacing
  refine ⟨result, replacing, ?_, ?_⟩
  · rintro rfl
    obtain _ | ⟨_ | _⟩ := result
    · exact (nomatch hq)
    · exact (nomatch hq)
    · rfl
  · rintro e rfl
    obtain _ | ⟨fault | _⟩ := result
    · exact (nomatch hq)
    · cases hq
      exact ⟨fault, rfl, rfl⟩
    · exact (nomatch hq)

/-- **A file is written at once.**  At every point of an execution it is as it was or has exactly
the document, and nothing has changed but it and the temporary file.  When it is written, it has the
document, and there is no temporary file.  When it is not, it is as it was, the first failure is
reported under its path, and there is no temporary file unless its removal failed as well. -/
theorem save_atomic (h : (g.save o path).Execution fs events q fs') :
    (fs'.at? path = fs.at? path ∨
        fs'.at? path = some (.file (Text.encode (g.document o)))) ∧
      fs.AgreesOff [path, Path.temporary path] fs' ∧
      (q = .done (.ok ()) →
        fs'.at? path = some (.file (Text.encode (g.document o))) ∧
          fs'.at? (Path.temporary path) = none) ∧
      ∀ e, q = .done (.error e) →
        fs'.at? path = fs.at? path ∧
          (∃ (fault : FileFault) (before : List FileAction) (action : FileAction)
            (after : List FileEvent), e = .file path fault ∧
              events = before.map .success ++ .act action (.error fault) :: after) ∧
          ∀ contents, fs'.at? (Path.temporary path) = some (.file contents) →
            ∃ fault, .act (.remove (Path.temporary path)) (.error fault) ∈ events := by
  obtain ⟨result, replacing, ofOk, ofError⟩ := g.replacing_of_save o h
  refine ⟨?_, replacing.agreesOff, ?_, ?_⟩
  · by_cases succeeded : result = some (.ok ())
    · subst succeeded
      exact .inr replacing.at?_of_ok.1
    · exact .inl (replacing.agreesOff_temporary succeeded).at?_of_temporary
  · intro hq
    obtain rfl := ofOk hq
    exact replacing.at?_of_ok
  · intro e hq
    obtain ⟨fault, rfl, rfl⟩ := ofError e hq
    obtain ⟨before, action, after, first⟩ := replacing.first_of_error
    refine ⟨(replacing.agreesOff_temporary (by simp)).at?_of_temporary,
      ⟨fault, before, action, after, rfl, first⟩, ?_⟩
    intro contents left
    refine replacing.temporary_of_error.resolve_left ?_
    simp [left]

/-- A device that is full when the document is written. -/
theorem save_atomic_full :
    ∃ fs fs' : FileSystem, fs.at? "g.json".toList = some (.file .empty) ∧
      (Grammar.empty.save {} "g.json".toList).Execution fs
        [.act (.create "g.json.tmp".toList) (.ok ()),
          .act (.write "g.json.tmp".toList (Text.encode (Grammar.empty.document {})))
            (.error .noSpace),
          .act (.remove "g.json.tmp".toList) (.ok ())]
        (.done (.error (.file "g.json".toList .noSpace))) fs' ∧
      fs'.at? "g.json".toList = fs.at? "g.json".toList := by
  have created : FileAction.perform { entries := [(["g.json".toList], .file .empty)] }
      (.create "g.json.tmp".toList) =
        .ok { entries := [(["g.json.tmp".toList], .file .empty),
          (["g.json".toList], .file .empty)] } := rfl
  have removed : FileAction.perform
      { entries := [(["g.json.tmp".toList], .file .empty), (["g.json".toList], .file .empty)] }
      (.remove "g.json.tmp".toList) =
        .ok { entries := [(["g.json".toList], .file .empty)] } := rfl
  have execution : (Grammar.empty.save {} "g.json".toList).Execution _ _ _ _ :=
    .act (.performed created) (.act (.failed _ .noSpace) (.act (.performed removed) (.start _ _)))
  exact ⟨_, _, rfl, execution, ((save_atomic _ _ execution).2.2.2 _ rfl).1⟩

end Grammar
end LineGrammar
