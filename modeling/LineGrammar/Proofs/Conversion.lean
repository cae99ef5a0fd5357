import LineGrammar.Command.Report
import LineGrammar.Proofs.Document.Recovery
import LineGrammar.Proofs.Files.Replacement
import LineGrammar.Proofs.Sampling
import LineGrammar.Proofs.Verdict
import Mathlib

/-! # A conversion is all or nothing

Whatever goes wrong in a conversion before the document is written leaves all files as they were,
and a document that cannot be written leaves the output as it was; nothing is printed then but the
error.  If nothing goes wrong, the output has the document of the rules in the source
(`Request.respond_all_or_nothing`).

The rules in a source are told by its lines (`Conversion.rules`), and what the document, the listing
and the counts say of them is written out (`documentOf`, `listingOf`, `Report.written`); the grammar
that is compiled has just these rules (`Conversion.compile_of_ne_none`).

A pattern may end the program while the source is compiled.  No error is reported then, although all
files are as they were (`Request.respond_emptyClass`).  What is known about dialogues is about
samplers that answer every request, so a `Session` is made of one that may end the program: it
answers until the program ends, and refuses whatever comes after. -/

namespace LineGrammar

open FileProgram (Execution)

variable {fs fs' : FileSystem} {events : List FileEvent}

/-- A sampler that may have ended the program. -/
inductive Session (σ : Type) where
  | running (sampler : σ)
  | ended

/-- What a session says after the end.  The program does not get to see it. -/
def Session.refusal (pattern : Text) : PatternError := { pattern, reason := [] }

instance {σ : Type} [PartialSampler σ] : Sampler (Session σ) where
  sample
    | .running s, pattern, count =>
      match PartialSampler.sample? s pattern count with
      | some (answer, s) => (answer, .running s)
      | none => (.error (Session.refusal pattern), .ended)
    | .ended, pattern, _ => (.error (Session.refusal pattern), .ended)

/-- A dialogue with a sampler, told by the session with it. -/
theorem Dialogue.run?_eq {α ρ : Type} [RandomSource ρ] (d : Dialogue α) (s : RandomSampler ρ) :
    d.run? s =
      (s.answers? (d.requests (Session.running s))).map fun answered =>
        ((d.run (Session.running s)).1, answered.2) := by
  induction d generalizing s with
  | done a => rfl
  | ask pattern count next ih =>
      unfold run? requests run
      rw [RandomSampler.answers?]
      simp only [Sampler.sample, PartialSampler.sample?]
      cases s.answer? pattern count with
      -- There is no result on either side, whatever the refusal in the session leads to.
      | none => rfl
      | some given =>
          simp only [Option.bind_eq_bind, Option.bind_some]
          rw [ih given.1 given.2]
          cases given.2.answers? ((next given.1).requests (Session.running given.2)) <;> rfl

/-- The labels of the lines of a source, without the blanks around them. -/
def labels (source : Text) : List Text :=
  ((Text.lines source).filterMap RuleLine.parse?).map RuleLine.label

theorem label_readLines {σ : Type} [Sampler σ] (settings : Settings) (s : σ)
    (rules : List RuleLine) :
    (readLines settings s rules).1.map ReadLine.label = rules.map RuleLine.label := by
  unfold readLines
  induction rules generalizing s with
  | nil => rfl
  | cons rule rules ih => exact congrArg (rule.label :: ·) (ih _)

theorem Workbench.name_contributions {σ : Type} [Sampler σ] (w : Workbench σ) (source : Text) :
    (w.contributions source).map Rule.name = labels source := by
  unfold contributions readSource labels
  rw [← label_readLines w.settings w.sampler, List.map_map]
  rfl

/-! ### Rules and what is written of them -/

/-- The rules that lines add up to: one for each name, in the order of the first appearances, with
the alternatives of all lines of the name. -/
def rulesOf (lines : List Rule) : List Rule :=
  (newNames [] (lines.map Rule.name)).map fun name =>
    { name, alternatives := (lines.filter fun l => l.name = name).flatMap Rule.alternatives }

theorem length_rulesOf (lines : List Rule) :
    (rulesOf lines).length = (lines.map Rule.name).toFinset.card := by
  have distinct : ((rulesOf lines).map Rule.name).Nodup := by
    unfold rulesOf
    rw [← Grammar.rules_extendAll_empty]
    exact Grammar.nodup_names _
  have names : (rulesOf lines).map Rule.name = newNames [] (lines.map Rule.name) := by
    unfold rulesOf
    rw [List.map_map]
    exact List.map_id _
  rw [← List.length_map Rule.name, ← List.toFinset_card_of_nodup distinct, names]
  congr 1
  ext n
  rw [List.mem_toFinset, List.mem_toFinset, ← List.nil_append (newNames [] _), mem_append_newNames]
  exact or_iff_right List.not_mem_nil

theorem Grammar.alternativeCount_eq (g : Grammar) :
    g.alternativeCount = (g.rules.toList.map fun r => r.alternatives.length).sum := by
  unfold alternativeCount
  rw [List.length_flatMap]

/-- The listing of rules: a line for each, with its alternatives as lists of quoted symbols. -/
def listingOf (rules : List Rule) : Text :=
  rules.flatMap fun r =>
    Symbol.bracketed r.name ++ " = ".toList ++
      bracketList (r.alternatives.map fun a =>
        bracketList (a.map fun s => Text.quoted Text.isHidden s.render)) ++ ['\n']

theorem Grammar.listing_eq (g : Grammar) : g.listing = listingOf g.rules.toList := rfl

/-- The JSON value of rules: a member for each, where the start rule takes the place of a rule of
its name, and is the last member if there is none. -/
def jsonOf (o : DocumentOptions) (rules : List Rule) : Json :=
  let start : Text × Json :=
    (Symbol.bracketed startName, .array [.array [.string (Symbol.bracketed o.entrypoint)]])
  .object ((rules.map fun r =>
      if r.name = startName then start
      else (Symbol.bracketed r.name,
        .array (r.alternatives.map fun a => .array (a.map fun s => .string s.render)))) ++
    if rules.any fun r => r.name = startName then [] else [start])

def documentOf (o : DocumentOptions) (rules : List Rule) : Text := (jsonOf o rules).pretty o.indent 0

theorem Grammar.toJson_eq (g : Grammar) (o : DocumentOptions) :
    g.toJson o = jsonOf o g.rules.toList := by
  have known : (g.rules.toList.any fun r => r.name = startName) ↔ startName ∈ g.names := by
    unfold names
    simp only [List.any_eq_true, List.mem_map, decide_eq_true_eq]
  unfold toJson jsonOf
  simp only [members_eq, documentRules_eq, List.map_append, List.map_map, known]
  refine congrArg Json.object (congrArg₂ (· ++ ·) (List.map_congr_left fun r _ => ?_) ?_)
  · exact apply_ite Rule.toMember _ _ _
  · exact apply_ite (List.map Rule.toMember) _ _ _

theorem Grammar.document_eq (g : Grammar) (o : DocumentOptions) :
    g.document o = documentOf o g.rules.toList := by
  unfold document documentOf
  rw [toJson_eq]

theorem Grammar.read_documentOf (g : Grammar) {o : DocumentOptions}
    (hi : ∀ b ∈ o.indent, Json.isBlank b = true) :
    Json.read (documentOf o g.rules.toList) = some (jsonOf o g.rules.toList) := by
  rw [← document_eq, ← toJson_eq]
  exact g.read_document hi

/-! ### Reading the input -/

/-- What comes of reading a source from a file, by its contents. -/
def sourceIn (path : Text) (contents : Except FileFault ByteArray) :
    Except ConversionError Text :=
  match contents with
  | .error fault => .error (.file path fault)
  | .ok bytes => match Text.decode? bytes with
    | some source => .ok source
    | none => .error (.file path .notUtf8)

theorem readSource_eq (path : Text) :
    readSource path = .read path fun contents => .done (sourceIn path contents) := by
  unfold readSource FileProgram.readText sourceIn
  refine congrArg (FileProgram.read path) (funext fun contents => ?_)
  cases contents with
  | error fault => rfl
  | ok bytes => cases h : Text.decode? bytes <;> simp only [h] <;> rfl

/-! ### Compiling -/

namespace Conversion

variable (c : Conversion) (around : Surroundings)

/-- A workbench for the source of a conversion, in a session with the sampler. -/
def workbench : Workbench (Session (RandomSampler ChaCha)) where
  settings := c.settings
  sampler := .running (c.sampler around)

/-- The rules in a source. -/
def rules (source : Text) : List Rule := rulesOf ((c.workbench around).contributions source)

theorem length_rules (source : Text) :
    (c.rules around source).length = (labels source).toFinset.card := by
  unfold rules
  rw [length_rulesOf, Workbench.name_contributions]

variable {source : Text} {result : Except ConversionError Unit} {requests : List (Text × Nat)}

theorem compile_eq (h : Verdict c.settings 1 (c.workbench around).sampler (Text.lines source) result
      requests) :
    c.compile around source =
      ((c.sampler around).answers? requests).map fun _ =>
        (Step.outcome (LineGrammar.compile c.settings source .empty)
          (c.workbench around).sampler).1 := by
  rw [← (h.sound c.settings .empty).2]
  unfold compile
  rw [Dialogue.run?_eq, Option.map_map]
  rfl

theorem compile_of_none (h : Verdict c.settings 1 (c.workbench around).sampler (Text.lines source)
      result requests) (ends : (c.sampler around).answers? requests = none) :
    c.compile around source = none := by
  rw [c.compile_eq around h, ends]
  rfl

/-- If all requests have answers, there is a result. -/
theorem compile_of_ne_none (h : Verdict c.settings 1 (c.workbench around).sampler
      (Text.lines source) result requests) (goesOn : (c.sampler around).answers? requests ≠ none) :
    ∃ compiled, c.compile around source = some compiled ∧
      compiled.map (fun _ => ()) = result ∧
      ∀ g, compiled = .ok g → g.rules.toList = c.rules around source := by
  obtain ⟨answered, ha⟩ := Option.ne_none_iff_exists'.mp goesOn
  refine ⟨_, by rw [c.compile_eq around h, ha]; rfl, (h.sound c.settings .empty).1, fun g hg => ?_⟩
  have yields : Step.Yields (LineGrammar.compile c.settings source .empty)
      (c.workbench around).sampler g _ := Prod.ext hg rfl
  obtain ⟨-, rfl, -⟩ := ((c.workbench around).yields_compile source _ _).mp yields
  exact Grammar.rules_extendAll_empty _

/-! ### Runs -/

/-- The grammar of the contents of the input, unless the program ends. -/
def grammarIn (contents : Except FileFault ByteArray) : Option (Except ConversionError Grammar) :=
  match sourceIn c.input contents with
  | .error e => some (.error e)
  | .ok source => c.compile around source

theorem grammarIn_of_none {bytes : ByteArray} (h : Text.decode? bytes = none) :
    c.grammarIn around (.ok bytes) = some (.error (.file c.input .notUtf8)) := by
  simp only [grammarIn, sourceIn, h]

theorem grammarIn_of_some {bytes : ByteArray} (h : Text.decode? bytes = some source) :
    c.grammarIn around (.ok bytes) = c.compile around source := by
  simp only [grammarIn, sourceIn, h]

theorem run_eq :
    c.run around = .read c.input fun contents => match c.grammarIn around contents with
      | some (.ok g) =>
        (g.save c.document c.output).bind fun saved => .done (some (saved.map fun _ => g))
      | without => .done without := by
  unfold run grammarIn
  rw [readSource_eq]
  refine congrArg (FileProgram.read c.input) (funext fun contents => ?_)
  simp only [FileProgram.bind]
  cases sourceIn c.input contents with
  | error e => rfl
  | ok source =>
      dsimp only
      rcases c.compile around source with _ | _ | _ <;> rfl

/-- A conversion reads its input first.  It ends there if that is not the source of a grammar, and
otherwise with what comes of saving the grammar. -/
theorem of_run {result : Option (Except ConversionError Grammar)}
    (h : (c.run around).Execution fs events (.done result) fs') :
    ∃ contents later, events = .read c.input contents :: later ∧
      (∀ bytes, contents = .ok bytes → fs.read c.input = .ok bytes) ∧
      ((∀ g, c.grammarIn around contents ≠ some (.ok g)) →
        result = c.grammarIn around contents ∧ fs' = fs) ∧
      ∀ g, c.grammarIn around contents = some (.ok g) →
        ∃ saved, (g.save c.document c.output).Execution fs later (.done saved) fs' ∧
          result = some (saved.map fun _ => g) := by
  rw [run_eq] at h
  cases h with
  | @read _ _ contents _ _ later _ given rest =>
      refine ⟨contents, later, rfl, given, ?_⟩
      dsimp only at rest
      generalize c.grammarIn around contents = compiled at rest ⊢
      split at rest
      · rename_i g
        obtain ⟨saved, saving, rfl⟩ := rest.of_map_done
        refine ⟨fun none => absurd rfl (none g), fun g' same => ?_⟩
        obtain rfl := Except.ok.inj (Option.some.inj same)
        exact ⟨saved, saving, rfl⟩
      · rename_i without
        obtain ⟨rfl, finished, rfl⟩ := rest.of_done
        cases finished
        exact ⟨fun _ => ⟨rfl, rfl⟩, fun g same => (without g same).elim⟩

end Conversion

/-! ### Reports -/

/-- The report of a conversion that failed. -/
def Report.failure (e : ConversionError) : Report where
  code := 1
  output := []
  errors := "error: ".toList ++ e.message ++ ['\n']

/-- The report of a conversion whose source has ended the program. -/
def Report.ended (around : Surroundings) : Report where
  code := 101
  output := []
  errors := around.notice

/-- The report of a conversion that has written the document of rules. -/
def Report.written (c : Conversion) (source : Text) (rules : List Rule) : Report where
  code := 0
  output :=
    (if c.listing then listingOf rules else []) ++
      ("Wrote ".toList ++ Text.ofNat (labels source).toFinset.card ++ " rules with ".toList ++
        Text.ofNat (rules.map fun r => r.alternatives.length).sum ++
        " alternatives to ".toList ++ c.output ++ ['\n'])
  errors := []

theorem Report.ofResult_of_rules {c : Conversion} {around : Surroundings} {source : Text}
    {g : Grammar} (h : g.rules.toList = c.rules around source) :
    Report.ofResult c around (some (.ok g)) = .written c source (c.rules around source) := by
  have size : g.size = (labels source).toFinset.card := by
    rw [← c.length_rules around, ← h]
    exact Array.length_toList.symm
  unfold written
  rw [← size, ← h, ← g.alternativeCount_eq, ← g.listing_eq]
  rfl

namespace Request

variable (c : Conversion) (around : Surroundings)

theorem of_respond {report : Report}
    (h : ((Request.convert c).respond around).Execution fs events (.done report) fs') :
    ∃ result, (c.run around).Execution fs events (.done result) fs' ∧
      report = Report.ofResult c around result :=
  h.of_map_done

/-- The report on a grammar that was to be saved, by whether an operation has failed. -/
theorem report_of_save {source : Text} {g : Grammar} {saved : Except ConversionError Unit}
    (hg : g.rules.toList = c.rules around source)
    (h : (g.save c.document c.output).Execution fs events (.done saved) fs') :
    ((∃ action fault, .act action (.error fault) ∈ events) →
      ∃ (fault : FileFault) (before : List FileAction) (action : FileAction)
        (after : List FileEvent),
        events = before.map .success ++ .act action (.error fault) :: after ∧
        Report.ofResult c around (some (saved.map fun _ => g)) =
          .failure (.file c.output fault) ∧
        fs'.at? c.output = fs.at? c.output) ∧
    ((∀ action fault, .act action (.error fault) ∉ events) →
      Report.ofResult c around (some (saved.map fun _ => g)) =
          .written c source (c.rules around source) ∧
        fs'.at? c.output =
          some (.file (Text.encode (documentOf c.document (c.rules around source))))) := by
  obtain ⟨result, replacing, ofOk, ofError⟩ := g.replacing_of_save c.document h
  cases saved with
  | error e =>
      obtain ⟨fault, rfl, rfl⟩ := ofError e rfl
      obtain ⟨before, action, after, first⟩ := replacing.first_of_error
      have unchanged := (replacing.agreesOff_temporary (by simp)).at?_of_temporary
      refine ⟨fun _ => ⟨fault, before, action, after, first, rfl, unchanged⟩, fun none => ?_⟩
      exact absurd (by simp [first]) (none action fault)
  | ok =>
      obtain rfl := ofOk rfl
      refine ⟨fun ⟨action, fault, failed⟩ => ?_, fun _ => ?_⟩
      · exact absurd failed (replacing.not_mem_of_ok action fault)
      · rw [← hg, ← g.document_eq, hg]
        exact ⟨Report.ofResult_of_rules hg, replacing.at?_of_ok.1⟩

/-- **A conversion is all or nothing**, and it comes to an end.  First of all the input is read.
Where that fails, or the contents are not UTF-8, this is what is reported, and all files are as they
were.  Otherwise the contents are a source, whose lines have a verdict in a session with the
sampler.

If one of the requests on the way has no answer, the source ends the program: nothing is reported
but what is printed in that case, and all files are as they were.

If all requests have answers, an error of the source is reported, and all files are as they were.
Without an error there are the rules in the source.  If an operation fails while their document is
written, the first failure is reported under the path of the output, which is as it was.  If none
fails, the output has the document, from which the value of the rules can be read back if it is
indented with white space, and the report lists the rules, if asked to, and counts them. -/
theorem respond_all_or_nothing (fs : FileSystem) :
    (∃ events report fs',
      ((Request.convert c).respond around).Execution fs events (.done report) fs') ∧
    ∀ events report fs',
      ((Request.convert c).respond around).Execution fs events (.done report) fs' →
    ∃ contents later, events = .read c.input contents :: later ∧
      (∀ fault, contents = .error fault →
        report = .failure (.file c.input fault) ∧ fs' = fs) ∧
      ∀ bytes, contents = .ok bytes → fs.read c.input = .ok bytes ∧
        (Text.decode? bytes = none → report = .failure (.file c.input .notUtf8) ∧ fs' = fs) ∧
        ∀ source, Text.decode? bytes = some source →
          (∃ result requests, Verdict c.settings 1 (Session.running (c.sampler around))
            (Text.lines source) result requests) ∧
          ∀ result requests, Verdict c.settings 1 (Session.running (c.sampler around))
            (Text.lines source) result requests →
              ((c.sampler around).answers? requests = none → report = .ended around ∧ fs' = fs) ∧
              ((c.sampler around).answers? requests ≠ none →
                (∀ e, result = .error e → report = .failure e ∧ fs' = fs) ∧
                (result = .ok () →
                  ((∃ action fault, .act action (.error fault) ∈ later) →
                    ∃ (fault : FileFault) (before : List FileAction) (action : FileAction)
                      (after : List FileEvent),
                      later = before.map .success ++ .act action (.error fault) :: after ∧
                      report = .failure (.file c.output fault) ∧
                      fs'.at? c.output = fs.at? c.output) ∧
                  ((∀ action fault, .act action (.error fault) ∉ later) →
                    (report = .written c source (c.rules around source) ∧
                      fs'.at? c.output =
                        some (.file (Text.encode (documentOf c.document (c.rules around source))))) ∧
                    ((∀ b ∈ c.document.indent, Json.isBlank b = true) →
                      Json.read (documentOf c.document (c.rules around source)) =
                        some (jsonOf c.document (c.rules around source)))))) := by
  refine ⟨?_, ?_⟩
  · exact ⟨_, _, _, FileProgram.execution_run ((Request.convert c).respond around) fs⟩
  · intro events report fs' h
    obtain ⟨result, running, rfl⟩ := of_respond c around h
    obtain ⟨contents, later, rfl, given, without, saved⟩ := c.of_run around running
    -- Without a grammar the conversion ends with nothing done.
    have nothing (compiled : Option (Except ConversionError Grammar))
        (h : c.grammarIn around contents = compiled) (none : ∀ g, compiled ≠ some (.ok g)) :
        Report.ofResult c around result = .ofResult c around compiled ∧ fs' = fs := by
      subst h
      exact ⟨congrArg _ (without none).1, (without none).2⟩
    refine ⟨contents, later, rfl, ?_, ?_⟩
    · rintro fault rfl
      exact nothing _ rfl fun g => nofun
    · rintro bytes rfl
      refine ⟨given bytes rfl, ?_, ?_⟩
      · intro hd
        exact nothing _ (c.grammarIn_of_none around hd) fun g => nofun
      · intro source hd
        have compiling := c.grammarIn_of_some around hd
        refine ⟨exists_verdict _ _ _ _, fun result requests verdict => ⟨?_, ?_⟩⟩
        · intro ends
          rw [c.compile_of_none around verdict ends] at compiling
          exact nothing _ compiling fun g => nofun
        · intro goesOn
          obtain ⟨compiled, hc, same, rules⟩ := c.compile_of_ne_none around verdict goesOn
          rw [hc] at compiling
          cases compiled with
          | error e =>
              obtain rfl : Except.error e = result := same
              refine ⟨fun e' he => ?_, nofun⟩
              obtain rfl := Except.error.inj he
              exact nothing _ compiling fun g => nofun
          | ok g =>
              obtain rfl : Except.ok () = result := same
              refine ⟨nofun, fun _ => ?_⟩
              obtain ⟨saved, saving, rfl⟩ := saved g compiling
              obtain ⟨failing, written⟩ := report_of_save c around (rules g rfl) saving
              refine ⟨failing, fun succeeds => ⟨written succeeds, fun hi => ?_⟩⟩
              rw [← rules g rfl]
              exact g.read_documentOf hi

/-- Two lines of one label and a line of the label that the document replaces, where the output is
there already. -/
theorem respond_all_or_nothing_start :
    let c : Conversion := { listing := true }
    let around : Surroundings :=
      { key := .ofSeed 0, picture := id, notice := [], usage := [], misuse := fun _ => [] }
    let source := "start: x\nb: y\n b : z\n".toList
    let rules : List Rule :=
      [{ name := "start".toList, alternatives := [[.nonterminal ['x']]] },
        { name := ['b'], alternatives := [[.nonterminal ['y']], [.nonterminal ['z']]] }]
    let fs : FileSystem :=
      { entries := [(["grammar.txt".toList], .file (Text.encode source)),
          (["grammar.json".toList], .file .empty)] }
    ∃ report fs', ((Request.convert c).respond around).run fs = (report, fs') ∧
      report = .written c source rules ∧
      fs'.at? c.output = some (.file (Text.encode (documentOf c.document rules))) ∧
      Json.read (documentOf c.document rules) = some (jsonOf c.document rules) := by
  intro c around source rules fs
  have execution := FileProgram.execution_run ((Request.convert c).respond around) fs
  obtain ⟨contents, later, split, -, ok⟩ := (respond_all_or_nothing c around fs).2 _ _ _ execution
  obtain rfl : .ok (Text.encode source) = contents := by
    cases split
    rfl
  have accepted : Verdict c.settings 1 (Session.running (c.sampler around)) (Text.lines source)
      (.ok ()) _ := .accepted (by decide)
  have silent : lineRequests c.settings (Text.lines source) = [] := by decide
  have read : c.rules around source = rules := by decide
  obtain ⟨failing, succeeding⟩ :=
    (((ok _ rfl).2.2 source (Text.decode?_encode source)).2 _ _ accepted).2
      (by rw [silent]; exact Option.some_ne_none _) |>.2 rfl
  have code : (((Request.convert c).respond around).run fs).1.code = 0 := by decide +kernel
  have succeeds (action : FileAction) (fault : FileFault) :
      .act action (.error fault) ∉ later := by
    intro failed
    obtain ⟨_, _, _, _, _, reported, _⟩ := failing ⟨action, fault, failed⟩
    rw [reported] at code
    exact (nomatch code)
  obtain ⟨⟨reported, there⟩, value⟩ := succeeding succeeds
  rw [read] at reported there value
  have blank : c.document.indent.all Json.isBlank = true := by decide
  exact ⟨_, _, rfl, reported, there, value (List.all_eq_true.mp blank)⟩

/-- A source with a pattern that can be read, but has a class without members.  The program ends,
and its code is not the one of a conversion that failed. -/
theorem respond_emptyClass :
    let c : Conversion := { settings := { mode := .multi } }
    let fs : FileSystem :=
      { entries := [(["grammar.txt".toList], .file (Text.encode "a: r[a&&b]\n".toList))] }
    ∀ around : Surroundings, ((Request.convert c).respond around).run fs =
      ({ code := 101, errors := around.notice }, fs) := by
  intro c fs around
  let source := "a: r[a&&b]\n".toList
  have ends : c.compile around source = none := by
    obtain ⟨next, asks⟩ : ∃ next, (LineGrammar.compile c.settings source .empty).run =
        .ask "[a&&b]".toList 15 next := ⟨_, rfl⟩
    unfold Conversion.compile
    rw [asks, Dialogue.run?]
    simp only [PartialSampler.sample?, RandomSampler.answer?_of_disjoint, Option.bind_eq_bind,
      Option.bind_none, Option.map_none]
  have execution := FileProgram.execution_run ((Request.convert c).respond around) fs
  obtain ⟨result, running, reported⟩ := of_respond c around execution
  obtain ⟨contents, later, split, -, without, -⟩ := c.of_run around running
  obtain rfl : .ok (Text.encode source) = contents := by
    cases split
    rfl
  have nothing := (c.grammarIn_of_some around (Text.decode?_encode source)).trans ends
  obtain ⟨rfl, same⟩ := without fun g hg => nomatch nothing.symm.trans hg
  rw [nothing] at reported
  exact Prod.ext reported same

end Request
end LineGrammar
