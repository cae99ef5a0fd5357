import LineGrammar.Files.Program
import LineGrammar.Proofs.Files.System

/-! # Executions of programs that use files

How a program may go if any operation may fail (`FileProgram.Execution`).  Where `FileProgram.run`
lets an operation fail for a reason that is in the file system only, here it may fail for whatever
reason.  One that fails changes nothing, but for a failing write, which may leave the file with some
of the bytes.  An execution may also stop between any two operations; it comes with what happened so
far and with the program that is left.

Whatever happens, an execution changes only the files of the operations in it
(`FileProgram.Execution.agreesOff`).  What the parts of a program do in an execution is told by
`of_bind`, `of_map` and `of_actAll`, so that no proof about a program looks at the tree behind it. -/

namespace LineGrammar

open FileSystem

namespace FileAction

variable {fs fs' : FileSystem}

/-- The paths whose files an operation changes if it succeeds. -/
def files : FileAction → List Text
  | create path => [path]
  | write path _ => [path]
  | sync _ => []
  | rename source target => [source, target]
  | remove path => [path]

/-- What may come of an operation: the result that it reports, and the file system after it. -/
inductive Outcome (fs : FileSystem) : FileAction → Except FileFault Unit → FileSystem → Prop
  | performed {action : FileAction} {fs' : FileSystem} (h : action.perform fs = .ok fs') :
      Outcome fs action (.ok ()) fs'
  | failed (action : FileAction) (fault : FileFault) : Outcome fs action (.error fault) fs
  /-- Writing fails after some of the bytes. -/
  | cut {path : Text} {part rest : ByteArray} {fs' : FileSystem} (fault : FileFault)
      (h : fs.write path part = .ok fs') :
      Outcome fs (.write path (part ++ rest)) (.error fault) fs'

/-- The paths whose files may have changed, by the result of an operation. -/
def changed : FileAction → Except FileFault Unit → List Text
  | action, .ok () => action.files
  | write path _, .error _ => [path]
  | _, .error _ => []

theorem agreesOff_perform {action : FileAction} (h : action.perform fs = .ok fs') :
    fs.AgreesOff action.files fs' := by
  cases action with
  | create path =>
      obtain ⟨l, hl, named, free, rfl⟩ := exists_of_create h
      exact .of_put hl named free .empty
  | write path bytes =>
      obtain ⟨l, contents, hl, named, there, rfl⟩ := exists_of_write h
      exact .of_put hl named (by simp [there]) _
  | sync path =>
      rw [eq_of_sync h]
      exact .refl fs []
  | rename source target =>
      obtain ⟨l, l', contents, hl, named, there, hl', named', free, rfl⟩ := exists_of_rename h
      have erased := AgreesOff.of_erase hl named (by simp [there])
      refine erased.trans (.of_put ((erased.location?_eq target).trans hl') named' ?_ contents)
      rwa [ne_eq, erased.directory]
  | remove path =>
      obtain ⟨l, contents, hl, named, there, rfl⟩ := exists_of_remove h
      exact .of_erase hl named (by simp [there])

/-- An operation changes nothing but its files, and these only if it succeeds or writes. -/
theorem Outcome.agreesOff {action : FileAction} {result : Except FileFault Unit}
    (h : action.Outcome fs result fs') : fs.AgreesOff (action.changed result) fs' := by
  cases h with
  | performed h => exact agreesOff_perform h
  | failed action fault => exact .refl fs _
  | @cut path part rest fs' fault h =>
      have written : (write path part).perform fs = .ok fs' := h
      exact agreesOff_perform written

end FileAction

/-- Something that happens when a program is executed. -/
inductive FileEvent where
  | read (path : Text) (contents : Except FileFault ByteArray)
  | act (action : FileAction) (result : Except FileFault Unit)

def FileEvent.changed : FileEvent → List Text
  | read _ _ => []
  | act action result => action.changed result

namespace FileProgram

variable {α β : Type} {fs fs' : FileSystem} {events : List FileEvent}

/-- That a program on a file system may come to the point where another program is left to be
executed on another file system.  A file that is read without failure has its contents. -/
inductive Execution : FileProgram α → FileSystem → List FileEvent → FileProgram α → FileSystem → Prop
  | start (p : FileProgram α) (fs : FileSystem) : Execution p fs [] p fs
  | read {path : Text} {next : Except FileFault ByteArray → FileProgram α}
      {contents : Except FileFault ByteArray} {fs fs' : FileSystem} {events : List FileEvent}
      {q : FileProgram α} (h : ∀ bytes, contents = .ok bytes → fs.read path = .ok bytes)
      (rest : Execution (next contents) fs events q fs') :
      Execution (.read path next) fs (.read path contents :: events) q fs'
  | act {action : FileAction} {next : Except FileFault Unit → FileProgram α}
      {result : Except FileFault Unit} {fs fs₁ fs' : FileSystem} {events : List FileEvent}
      {q : FileProgram α} (h : action.Outcome fs result fs₁)
      (rest : Execution (next result) fs₁ events q fs') :
      Execution (.act action next) fs (.act action result :: events) q fs'

namespace Execution

variable {p q : FileProgram α}

/-- An execution changes nothing but the files of its operations. -/
theorem agreesOff (h : p.Execution fs events q fs') :
    fs.AgreesOff (events.flatMap FileEvent.changed) fs' := by
  induction h with
  | start p fs => exact .refl fs []
  | read h rest ih => exact ih
  | act h rest ih => exact h.agreesOff.trans ih

theorem of_done {a : α} (h : (done a).Execution fs events q fs') :
    events = [] ∧ q = done a ∧ fs' = fs := by
  cases h
  exact ⟨rfl, rfl, rfl⟩

/-- One program after another is still in the first, or it has finished the first and gone on. -/
theorem of_bind {f : α → FileProgram β} {q : FileProgram β}
    (h : (p.bind f).Execution fs events q fs') :
    (∃ p', q = p'.bind f ∧ p.Execution fs events p' fs') ∨
      ∃ a fs₁ before after, events = before ++ after ∧ p.Execution fs before (done a) fs₁ ∧
        (f a).Execution fs₁ after q fs' := by
  induction p generalizing fs events with
  | done a => exact .inr ⟨a, fs, [], events, rfl, .start (done a) fs, h⟩
  | read path next ih =>
      cases h with
      | start p fs => exact .inl ⟨.read path next, rfl, .start _ _⟩
      | read hread rest =>
          obtain ⟨p', hq, h⟩ | ⟨a, fs₁, before, after, rfl, h, h'⟩ := ih _ rest
          · exact .inl ⟨p', hq, .read hread h⟩
          · exact .inr ⟨a, fs₁, _ :: before, after, rfl, .read hread h, h'⟩
  | act action next ih =>
      cases h with
      | start p fs => exact .inl ⟨.act action next, rfl, .start _ _⟩
      | act hact rest =>
          obtain ⟨p', hq, h⟩ | ⟨a, fs₁, before, after, rfl, h, h'⟩ := ih _ rest
          · exact .inl ⟨p', hq, .act hact h⟩
          · exact .inr ⟨a, fs₁, _ :: before, after, rfl, .act hact h, h'⟩

end Execution

/-- The result of a program that has nothing left to do. -/
def result? : FileProgram α → Option α
  | done a => some a
  | _ => none

theorem result?_eq_some_iff {p : FileProgram α} {a : α} : p.result? = some a ↔ p = done a := by
  cases p <;> simp [result?]

theorem result?_bind_done (p : FileProgram α) (f : α → β) :
    (p.bind fun a => done (f a)).result? = p.result?.map f := by
  cases p <;> rfl

/-- A program whose result is put in other words has the same executions. -/
theorem Execution.of_map {p : FileProgram α} {f : α → β} {q : FileProgram β}
    (h : (p.bind fun a => done (f a)).Execution fs events q fs') :
    ∃ p', p.Execution fs events p' fs' ∧ q.result? = p'.result?.map f := by
  obtain ⟨p', rfl, inner⟩ | ⟨a, fs₁, before, after, rfl, inner, outer⟩ := h.of_bind
  · exact ⟨p', inner, result?_bind_done p' f⟩
  · obtain ⟨rfl, rfl, rfl⟩ := outer.of_done
    exact ⟨done a, (List.append_nil before).symm ▸ inner, rfl⟩

theorem Execution.of_map_done {p : FileProgram α} {f : α → β} {b : β}
    (h : (p.bind fun a => done (f a)).Execution fs events (done b) fs') :
    ∃ a, p.Execution fs events (done a) fs' ∧ b = f a := by
  obtain ⟨p', inner, hr⟩ := h.of_map
  obtain ⟨a, ha, rfl⟩ := Option.map_eq_some_iff.mp hr.symm
  exact ⟨a, result?_eq_some_iff.mp ha ▸ inner, rfl⟩

/-- What happens when a program is run and nothing fails but for a reason in the file system. -/
def trace : FileProgram α → FileSystem → List FileEvent
  | done _, _ => []
  | read path next, fs => .read path (fs.read path) :: (next (fs.read path)).trace fs
  | act action next, fs =>
    match action.perform fs with
    | .ok fs' => .act action (.ok ()) :: (next (.ok ())).trace fs'
    | .error fault => .act action (.error fault) :: (next (.error fault)).trace fs

/-- A run is an execution that comes to its end. -/
theorem execution_run (p : FileProgram α) (fs : FileSystem) :
    p.Execution fs (p.trace fs) (done (p.run fs).1) (p.run fs).2 := by
  induction p generalizing fs with
  | done a => exact .start (done a) fs
  | read path next ih => exact .read (fun bytes hb => hb) (ih (fs.read path) fs)
  | act action next ih =>
      unfold trace run
      cases hp : action.perform fs with
      | ok fs₁ => exact .act (.performed hp) (ih (.ok ()) fs₁)
      | error fault => exact .act (.failed action fault) (ih (.error fault) fs)

end FileProgram

/-- That operations succeed one after another. -/
inductive FileAction.Performs : FileSystem → List FileAction → FileSystem → Prop
  | nil (fs : FileSystem) : Performs fs [] fs
  | cons {action : FileAction} {actions : List FileAction} {fs fs₁ fs' : FileSystem}
      (first : action.perform fs = .ok fs₁) (rest : Performs fs₁ actions fs') :
      Performs fs (action :: actions) fs'

def FileEvent.success (action : FileAction) : FileEvent := act action (.ok ())

namespace FileProgram

open FileAction (Performs)

/-- Operations one after another: some of them have succeeded and the others are left, or the one
after them has failed. -/
theorem Execution.of_actAll {actions : List FileAction}
    {q : FileProgram (Except FileFault Unit)} (h : (actAll actions).Execution fs events q fs') :
    (∃ before rest, actions = before ++ rest ∧ Performs fs before fs' ∧ q = actAll rest ∧
        events = before.map .success) ∨
      ∃ before action rest fs₁ fault, actions = before ++ action :: rest ∧
        Performs fs before fs₁ ∧ action.Outcome fs₁ (.error fault) fs' ∧
        q = done (.error fault) ∧ events = before.map .success ++ [.act action (.error fault)] := by
  induction actions generalizing fs events with
  | nil =>
      obtain ⟨rfl, rfl, rfl⟩ := h.of_done
      exact .inl ⟨[], [], rfl, .nil _, rfl, rfl⟩
  | cons action actions ih =>
      cases h with
      | start p fs => exact .inl ⟨[], action :: actions, rfl, .nil _, rfl, rfl⟩
      | @act _ _ result _ fs₁ _ events _ first later =>
          cases result with
          | error fault =>
              obtain ⟨rfl, rfl, rfl⟩ := later.of_done
              exact .inr ⟨[], action, actions, fs, fault, rfl, .nil fs, first, rfl, rfl⟩
          | ok =>
              cases first with
              | performed first =>
                  obtain ⟨before, rest, rfl, succeeded, rfl, rfl⟩ |
                      ⟨before, failing, rest, fs₂, fault, rfl, succeeded, failed, rfl, rfl⟩ :=
                    ih later
                  · exact .inl ⟨action :: before, rest, rfl, .cons first succeeded, rfl, rfl⟩
                  · exact .inr ⟨action :: before, failing, rest, fs₂, fault, rfl,
                      .cons first succeeded, failed, rfl, rfl⟩

end FileProgram
end LineGrammar
