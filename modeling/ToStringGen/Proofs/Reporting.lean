import ToStringGen.Command
import ToStringGen.Proofs.Disk.Change
import ToStringGen.Proofs.Processing.Course
import ToStringGen.Proofs.Text.Utf8
import ToStringGen.Workspace

/-!
# Diagnostics, outcomes and exit codes agree

What a run reports to the build is what its outcomes call for: a warning about each
declaration that shows itself, an error about each class that could not be written, and
nothing else. A collection holds this list, a tally has its numbers, and the command
`generate` fails by the number of its errors.
-/

namespace ToStringGen

open Command Log

variable {σ S : Type}

namespace Collection

/-- A collection keeps what is reported to it, in order. -/
theorem foldl_report (collection : Collection) (diagnostics : List Diagnostic) :
    diagnostics.foldl report collection =
      { diagnostics := collection.diagnostics ++ diagnostics } := by
  induction diagnostics generalizing collection with
  | nil => simp
  | cons diagnostic rest ih => rw [List.foldl_cons, ih, report, List.append_assoc,
      List.singleton_append]

end Collection

namespace Tally

/-- A tally counts what is reported to it by its severity. -/
theorem reportAll_eq (tally : Tally) (diagnostics : List Diagnostic) :
    tally.reportAll diagnostics =
      { warnings := tally.warnings + diagnostics.countP (·.severity == .warning)
        errors := tally.errors + diagnostics.countP (·.severity == .error) } := by
  unfold reportAll
  induction diagnostics generalizing tally with
  | nil => simp
  | cons diagnostic rest ih =>
    rw [List.foldl_cons, ih, List.countP_cons, List.countP_cons, report]
    cases hseverity : diagnostic.severity <;> simp [Nat.add_assoc, Nat.add_comm 1]

end Tally

namespace Course

variable {filer : Filer (StateM σ)} {s t : σ} {treatments : List Treatment}

/-- Warnings are due about the declarations that show themselves, one about each. -/
theorem countP_warning (h : Course filer s treatments t) :
    (treatments.flatMap Treatment.due).countP (·.severity == .warning) =
      (treatments.map Treatment.outcome).countP (·.stage == .overridden) := by
  induction h with
  | nil => rfl
  | cons first _ ih =>
    rw [List.flatMap_cons, List.countP_append, ih, List.map_cons, List.countP_cons, Nat.add_comm]
    cases first <;> rfl

/-- Errors are due about the classes that could not be written, one about each. -/
theorem countP_error (h : Course filer s treatments t) :
    (treatments.flatMap Treatment.due).countP (·.severity == .error) =
      (treatments.map Treatment.outcome).countP (·.stage == .ioFailure) := by
  induction h with
  | nil => rfl
  | cons first _ ih =>
    rw [List.flatMap_cons, List.countP_append, ih, List.map_cons, List.countP_cons, Nat.add_comm]
    cases first <;> rfl

end Course

/-- A run tells the build what its outcomes call for: it is a course of treatments, each of whose
outcomes has its diagnostics. A new collection holds them all, and a new tally has the numbers of
the outcomes that call for them. -/
structure TellsOutcomes (filer : Filer (StateM σ)) (declarations : List TypeDeclaration)
    (s : σ) (report : RunReport) (diagnostics : List Diagnostic) (t : σ) : Prop where
  exists_course : ∃ treatments, Course filer s treatments t ∧
    treatments.map Treatment.declaration = declarations ∧
    report.outcomes = treatments.map Treatment.outcome ∧
    diagnostics = treatments.flatMap Treatment.due ∧
    (diagnostics.foldl Collection.report {}).diagnostics = treatments.flatMap Treatment.due
  tally_eq : ({} : Tally).reportAll diagnostics =
    { warnings := report.count (· == .overridden), errors := report.failed }

/-- A run tells what its outcomes call for, for any source, any filer and any limit on passes. -/
theorem Processor.runToCompletion_tellsOutcomes [Discovery S] (processor : Processor)
    (filer : Filer (StateM σ)) (source : S) (s : σ) :
    let run := (processor.runToCompletion filer source).run s
    TellsOutcomes filer (processor.discovered processor.maxPasses source) s run.1.1
      (diagnosticsOf run.1.2.1) run.2 := by
  intro run
  obtain ⟨treatments, hcourse, hdeclarations, houtcomes, hdiagnostics⟩ :=
    processor.runToCompletion_follows filer source s
  refine ⟨⟨treatments, hcourse, hdeclarations, houtcomes, hdiagnostics, ?_⟩, ?_⟩
  · rw [Collection.foldl_report, List.nil_append]
    exact hdiagnostics
  · rw [Tally.reportAll_eq, RunReport.failed, RunReport.count, RunReport.count, houtcomes,
      hdiagnostics, hcourse.countP_warning, hcourse.countP_error, Nat.zero_add, Nat.zero_add]

namespace Command

/-- What the options of `generate` put in place of settings. -/
def GenerateOptions.overrides (options : GenerateOptions) : Overrides :=
  { config := options.config, output := options.output, marker := options.marker,
    logLevel := options.logLevel }

/-- What is said of classes that could not be written. -/
def errorsText (errors : Nat) : String :=
  toString errors ++ " error(s) reported during generation"

/-- A transcript fails when a class could not be written, and says how many could not; its
diagnostics have the same numbers. -/
structure FailsByOutcomes (transcript : Transcript) (report : RunReport) : Prop where
  tally_eq : ({} : Tally).reportAll (diagnosticsOf transcript.events) =
    { warnings := report.count (· == .overridden), errors := report.failed }
  failure_isSome_iff : transcript.failure.isSome = true ↔
    ∃ outcome ∈ report.outcomes, outcome.stage = .ioFailure
  failure_eq : ∀ failure, transcript.failure = some failure →
    failure = { message := errorsText (report.outcomes.countP (·.stage == .ioFailure)) }
  exitCode_eq : ∀ directives, (transcript.completion directives).exitCode =
    if report.failed = 0 then 0 else 1
  complaint_eq : ∀ directives, (transcript.completion directives).complaint =
    if report.failed = 0 then none else some ("Error: " ++ errorsText report.failed)

/-- The failure of a run follows from the number of its failed outcomes. -/
theorem failsByOutcomes_of_failure_eq {transcript : Transcript} {report : RunReport}
    (h : transcript.failure = failureOf report.failed)
    (htally : ({} : Tally).reportAll (diagnosticsOf transcript.events) =
      { warnings := report.count (· == .overridden), errors := report.failed }) :
    FailsByOutcomes transcript report := by
  have hzero : report.failed = 0 ↔ ∀ outcome ∈ report.outcomes, outcome.stage ≠ .ioFailure := by
    simp [RunReport.failed, RunReport.count, List.countP_eq_zero]
  by_cases hfailed : report.failed = 0
  · rw [failureOf, if_pos hfailed] at h
    refine ⟨htally, ?_, ?_, fun _ => ?_, fun _ => ?_⟩
    · simpa [h] using hzero.mp hfailed
    · simp [h]
    · simp [Transcript.completion, h, hfailed]
    · simp [Transcript.completion, h, hfailed]
  · rw [failureOf, if_neg hfailed] at h
    have hsome : ∃ outcome ∈ report.outcomes, outcome.stage = .ioFailure := by
      by_contra hnone
      exact hfailed (hzero.mpr fun outcome hmem hstage => hnone ⟨outcome, hmem, hstage⟩)
    refine ⟨htally, ?_, fun failure hfailure => ?_, fun _ => ?_, fun _ => ?_⟩
    · simpa [h] using hsome
    · rw [h] at hfailure
      exact (Option.some.inj hfailure).symm
    · simp [Transcript.completion, h, hfailed]
    · simp [Transcript.completion, h, hfailed, Failure.report, errorsText]

/-- Settings that options were applied to are valid. -/
theorem validate_of_finish {overrides : Overrides} {base settings : Settings}
    (h : overrides.finish base = .ok settings) : settings.validate = .ok () := by
  rw [Overrides.finish] at h
  split at h
  · next hvalid =>
    cases h
    exact hvalid
  · cases h

variable {Handle : Type} [Volume Handle (StateM σ)]

/-- Settings that were resolved are valid. -/
theorem validate_of_resolve {overrides : Overrides} {settings : Settings} {s t : σ}
    (h : (resolve overrides : StateM σ (Except Failure Settings)).run s = (.ok settings, t)) :
    settings.validate = .ok () := by
  rw [resolve, run_bind] at h
  split at h
  · rw [run_pure, Prod.mk.injEq] at h
    exact validate_of_finish h.1
  · rw [run_bind] at h
    split at h
    · cases h
    · rw [run_pure, Prod.mk.injEq] at h
      exact validate_of_finish h.1

/-- Without a settings file the options are put in place of the default settings. -/
theorem run_resolve_of_isFile_eq_false {overrides : Overrides} {s t : σ}
    (hconfig : overrides.config = none)
    (h : (Volume.isFile defaultConfig : StateM σ Bool).run s = (false, t)) :
    (resolve overrides : StateM σ (Except Failure Settings)).run s =
      (overrides.finish {}, t) := by
  have hpath : (configPath overrides : StateM σ (Option Path)).run s = (none, t) := by
    rw [configPath, hconfig]
    simp only [run_bind, h]
    rfl
  rw [resolve, run_bind, hpath]
  rfl

/-- A manifest is loaded from the text of its file. -/
theorem run_loadManifest_of_read {path : Path} {text : String} {s t : σ}
    (h : (Volume.read path : StateM σ (Except Fault Text.Bytes)).run s =
      (.ok (Text.Utf8.encode text), t)) :
    (loadManifest path : StateM σ (Except ManifestError Manifest)).run s =
      (Manifest.ofToml text, t) := by
  have htext : (Volume.readText path : StateM σ (Except Fault String)).run s = (.ok text, t) := by
    rw [Volume.readText, run_bind, h]
    simp only [Text.Utf8.decode_encode, run_pure]
  rw [loadManifest, run_bind, htext]
  rfl

/-- The level of valid settings is known. -/
theorem exists_level_of_validate {settings : Settings} (h : settings.validate = .ok ()) :
    ∃ level, Level.parse settings.logLevel = .ok level := by
  unfold Settings.validate at h
  split at h
  · cases h
  · split at h
    · cases h
    · split at h
      · cases h
      · next level hlevel => exact ⟨level, by rw [Level.parse, hlevel]⟩

variable [MonadStateOf (Directory Handle) (StateM σ)]

/-- What is not rehearsed is run below the output directory. -/
theorem run_execute_of_performed (settings : Settings) (manifest : Manifest) {s u : σ}
    (hset : (set ({ root := settings.outputDir } : Directory Handle) : StateM σ PUnit).run s =
      ((), u)) :
    let execution := ((execute settings manifest false : StateM σ Execution).run s).1
    let run := ((Processor.ofSettings settings).runToCompletion
      (Directory.filer : Filer (StateM σ)) manifest.pool).run u
    execution.report = run.1.1 ∧ execution.events = run.1.2.1 := by
  rw [execute, if_neg Bool.false_ne_true, perform, run_bind, hset]
  exact ⟨rfl, rfl⟩

/-- Executing a manifest reports one error for each class that could not be written, and one
warning for each declaration that shows itself. -/
theorem tally_execute (settings : Settings) (manifest : Manifest) (dryRun : Bool) (s : σ) :
    let execution := ((execute settings manifest dryRun : StateM σ Execution).run s).1
    ({} : Tally).reportAll (diagnosticsOf execution.events) =
      { warnings := execution.report.count (· == .overridden)
        errors := execution.report.failed } := by
  cases dryRun with
  | true =>
    exact ((Processor.ofSettings settings).runToCompletion_tellsOutcomes Memory.filer
      manifest.pool {}).tally_eq
  | false =>
    obtain ⟨hreport, hevents⟩ := run_execute_of_performed settings manifest (s := s) rfl
    intro execution
    rw [hreport, hevents]
    exact ((Processor.ofSettings settings).runToCompletion_tellsOutcomes
      (Directory.filer : Filer (StateM σ)) manifest.pool _).tally_eq

/-- With settings resolved and a valid manifest loaded, `generate` executes it, and its failure
follows from the number of failed outcomes. -/
theorem run_generate {options : GenerateOptions} {settings : Settings} {manifest : Manifest}
    {s r u : σ}
    (hresolve : (resolve options.overrides : StateM σ (Except Failure Settings)).run s =
      (.ok settings, r))
    (hload : (loadManifest options.manifest : StateM σ (Except ManifestError Manifest)).run r =
      (.ok manifest, u))
    (hvalid : manifest.validate = .ok ()) :
    let executed := (execute settings manifest options.dryRun : StateM σ Execution).run u
    ∃ transcript, (generate options : StateM σ Transcript).run s = (transcript, executed.2) ∧
      transcript.failure = failureOf executed.1.report.failed ∧
      diagnosticsOf transcript.events = diagnosticsOf executed.1.events := by
  intro executed
  obtain ⟨level, hlevel⟩ := exists_level_of_validate (validate_of_resolve hresolve)
  have htally := tally_execute settings manifest options.dryRun u
  rw [GenerateOptions.overrides] at hresolve
  refine ⟨{ logLevel := some level
            output := executed.1.output
            events := .settingsResolved settings ::
              .manifestLoaded manifest.types.length :: executed.1.events
            failure := failureOf executed.1.report.failed }, ?_, rfl, rfl⟩
  rw [generate, run_bind, hresolve]
  simp only [hlevel, run_bind, hload, hvalid, run_pure, htally]
  rfl

/-- Diagnostics, outcomes and exit codes agree. Whatever the source, the filer and the limit on
passes are, a run reports, in order, one warning about each declaration that shows itself and one
error about each class that could not be written, which names the file and the reason that its
writing came to, and nothing else. With settings resolved and a valid manifest loaded, `generate`
executes the manifest and fails exactly if a class could not be written, by their number. -/
theorem diagnostics_outcomes_exitCode_agree :
    (∀ {σ S : Type} [Discovery S] (processor : Processor) (filer : Filer (StateM σ)) (source : S)
        (s : σ),
      let run := (processor.runToCompletion filer source).run s
      TellsOutcomes filer (processor.discovered processor.maxPasses source) s run.1.1
        (diagnosticsOf run.1.2.1) run.2) ∧
    (∀ {σ Handle : Type} [Volume Handle (StateM σ)] [MonadStateOf (Directory Handle) (StateM σ)]
        (options : GenerateOptions) (settings : Settings) (manifest : Manifest) (s r u : σ),
      (resolve options.overrides : StateM σ (Except Failure Settings)).run s = (.ok settings, r) →
      (loadManifest options.manifest : StateM σ (Except ManifestError Manifest)).run r =
        (.ok manifest, u) →
      manifest.validate = .ok () →
      let executed := (execute settings manifest options.dryRun : StateM σ Execution).run u
      let generated := (generate options : StateM σ Transcript).run s
      generated.2 = executed.2 ∧ FailsByOutcomes generated.1 executed.1.report) := by
  constructor
  · intro σ S _ processor filer source s
    exact processor.runToCompletion_tellsOutcomes filer source s
  · intro σ Handle _ _ options settings manifest s r u hresolve hload hvalid executed generated
    obtain ⟨transcript, hrun, hfailure, hdiagnostics⟩ := run_generate hresolve hload hvalid
    have hgenerated : generated = (transcript, executed.2) := hrun
    have htally := tally_execute settings manifest options.dryRun u
    rw [hgenerated]
    exact ⟨rfl, failsByOutcomes_of_failure_eq hfailure (hdiagnostics ▸ htally)⟩

/-- A manifest of one class. -/
def oneClass : Manifest where
  types :=
    [{ qualifiedName := "A", annotations := ["CustomToString"], fields := [{ name := "a" }] }]

/-- Its text. -/
def oneClassText : String :=
  "[[types]]\nqualified_name = \"A\"\nannotations = [\"CustomToString\"]\n" ++
    "fields = [\x7b name = \"a\" \x7d]\n"

/-- A workspace in which a manifest is the only file, where the output directory should be. -/
def manifestInTheWay : Workspace where
  directory := { root := ⟨""⟩ }
  disk := ({} : Disk).put ["m"] (.file (Text.Utf8.encode oneClassText))

/-- There is no settings file. -/
theorem isFile_manifestInTheWay : manifestInTheWay.disk.isFile defaultConfig = false := by
  simp +decide [Disk.isFile, Disk.locate, Disk.follow, Disk.start, Disk.steps, Text.segments,
    Disk.linkLimit, manifestInTheWay, defaultConfig, Disk.entry?_put, Disk.entry?_empty]

/-- The file holds the manifest. -/
theorem read_manifestInTheWay :
    manifestInTheWay.disk.read ⟨"m"⟩ = .ok (Text.Utf8.encode oneClassText) := by
  simp +decide [Disk.read, Disk.locate, Disk.follow, Disk.start, Disk.steps, Text.segments,
    Disk.linkLimit, manifestInTheWay, Disk.entry?_put]

/-- The text of the manifest is read. -/
theorem ofToml_oneClassText : Manifest.ofToml oneClassText = .ok oneClass := by
  decide +kernel

/-- The same workspace when the output directory is set up. -/
def outputInTheWay : Workspace :=
  { manifestInTheWay with directory := { root := ⟨"m"⟩ } }

/-- No file can be created below a file. -/
theorem run_create_outputInTheWay :
    ((Directory.filer : Filer (StateM Workspace)).create "AWithToString").run outputInTheWay =
      (.error (.create "AWithToString" (.system .alreadyExists)), outputInTheWay) := by
  have hmake : (Volume.makeDirectory ⟨"m"⟩ : StateM Workspace (Except Fault Unit)).run
      outputInTheWay = (.error (.system .alreadyExists), outputInTheWay) := by
    have hdisk : outputInTheWay.disk.makeDirectory ⟨"m"⟩ =
        (.error (.system .alreadyExists), outputInTheWay.disk) := by
      simp +decide [Disk.makeDirectory, Disk.locate, Disk.follow, Disk.start, Disk.steps,
        Text.segments, Disk.linkLimit, outputInTheWay, manifestInTheWay, Disk.entry?_put]
    change Workspace.onDisk (·.makeDirectory ⟨"m"⟩) outputInTheWay = _
    rw [Workspace.onDisk, hdisk]
  have hfile : (Volume.isDirectory ⟨"m"⟩ : StateM Workspace Bool).run outputInTheWay =
      (false, outputInTheWay) := by
    have hdisk : outputInTheWay.disk.isDirectory ⟨"m"⟩ = false := by
      simp +decide [Disk.isDirectory, Disk.locate, Disk.follow, Disk.start, Disk.steps,
        Text.segments, Disk.linkLimit, outputInTheWay, manifestInTheWay, Disk.entry?_put]
    exact congrArg (·, outputInTheWay) hdisk
  have hpath : outputInTheWay.directory.pathFor "AWithToString" = ⟨"m/AWithToString.java"⟩ := by
    decide +kernel
  have hparent : Path.parent? ⟨"m/AWithToString.java"⟩ = some ⟨"m"⟩ := by decide +kernel
  have hparents : (Volume.makeParents ⟨"m/AWithToString.java"⟩ :
      StateM Workspace (Except Fault Unit)).run outputInTheWay =
        (.error (.system .alreadyExists), outputInTheWay) := by
    have hcomponents : (Path.mk "m").components.reverse = [.name "m"] := by decide +kernel
    have htext : Path.ofComponents [.name "m"] = ⟨"m"⟩ := by decide +kernel
    rw [Volume.makeParents, hparent]
    simp only [hcomponents, Volume.makeTree, List.reverse_singleton, htext, run_bind, hmake]
    rw [if_neg (by decide), run_bind, hfile]
    rfl
  have hopen : (Directory.openFile (outputInTheWay.directory.pathFor "AWithToString") :
      StateM Workspace (Except Fault Location)).run outputInTheWay =
        (.error (.system .alreadyExists), outputInTheWay) := by
    rw [hpath, Directory.openFile, run_bind, hparents]
    rfl
  have hget : (getThe (Directory Location) : StateM Workspace (Directory Location)).run
      outputInTheWay = (outputInTheWay.directory, outputInTheWay) := rfl
  simp only [Directory.filer, run_bind, hget, hopen, run_pure]

/-- The only class is treated by trying to write it in vain. -/
theorem countP_course_outputInTheWay {treatments : List Treatment} {t : Workspace}
    (h : Course (Directory.filer : Filer (StateM Workspace)) outputInTheWay treatments t)
    (hdeclarations : treatments.map Treatment.declaration = oneClass.types) :
    (treatments.map Treatment.outcome).countP (·.stage == .ioFailure) = 1 := by
  obtain ⟨treatment, rfl, hdeclaration⟩ := List.map_eq_singleton_iff.mp hdeclarations
  have hclass : treatment.declaration.classArtifact.qualifiedName = "AWithToString" := by
    rw [hdeclaration]
    decide +kernel
  have hwrite : ((Directory.filer : Filer (StateM Workspace)).writeArtifact
      treatment.declaration.classArtifact).run outputInTheWay =
        ((.error (.create "AWithToString" (.system .alreadyExists)), []), outputInTheWay) := by
    rw [Filer.writeArtifact, run_bind, hclass, run_create_outputInTheWay]
    rfl
  have hplain : treatment.declaration.overridesToString = false := by
    rw [hdeclaration]
    decide +kernel
  have hsome : treatment.declaration.eligibleFields ≠ [] := by
    rw [hdeclaration]
    decide +kernel
  cases h with
  | cons first rest =>
    cases rest
    cases first with
    | overridden _ hoverrides => simp [hplain] at hoverrides
    | withoutFields _ _ hfields => exact absurd hfields hsome
    | generated _ _ hgenerated =>
      rw [hwrite] at hgenerated
      cases hgenerated
    | failed => rfl

/-- Where no directory can be made the only class is not written, and the command fails. -/
theorem diagnostics_outcomes_exitCode_agree_manifestInTheWay :
    let options : GenerateOptions := { manifest := ⟨"m"⟩, output := some ⟨"m"⟩ }
    let settings : Settings := { outputDir := ⟨"m"⟩ }
    let generated := (generate options : StateM Workspace Transcript).run manifestInTheWay
    let executed := (execute settings oneClass options.dryRun : StateM Workspace Execution).run
      manifestInTheWay
    (resolve options.overrides : StateM Workspace (Except Failure Settings)).run
        manifestInTheWay = (.ok settings, manifestInTheWay) ∧
      (loadManifest options.manifest : StateM Workspace (Except ManifestError Manifest)).run
        manifestInTheWay = (.ok oneClass, manifestInTheWay) ∧
      oneClass.validate = .ok () ∧ FailsByOutcomes generated.1 executed.1.report ∧
      (generated.1.completion none).exitCode = 1 ∧
      (generated.1.completion none).complaint =
        some "Error: 1 error(s) reported during generation" := by
  intro options settings generated executed
  have hresolve : (resolve options.overrides : StateM Workspace (Except Failure Settings)).run
      manifestInTheWay = (.ok settings, manifestInTheWay) := by
    have hfinish : options.overrides.finish {} = .ok settings := by decide +kernel
    rw [← hfinish]
    exact run_resolve_of_isFile_eq_false rfl
      (congrArg (·, manifestInTheWay) isFile_manifestInTheWay)
  have hload : (loadManifest options.manifest :
      StateM Workspace (Except ManifestError Manifest)).run manifestInTheWay =
        (.ok oneClass, manifestInTheWay) := by
    rw [← ofToml_oneClassText]
    exact run_loadManifest_of_read (congrArg (·, manifestInTheWay) read_manifestInTheWay)
  have hvalid : oneClass.validate = .ok () := by decide +kernel
  have hdiscovered : (Processor.ofSettings settings).discovered
      (Processor.ofSettings settings).maxPasses oneClass.pool = oneClass.types := by
    decide +kernel
  obtain ⟨⟨treatments, hcourse, hdeclarations, houtcomes, _⟩, _⟩ :=
    diagnostics_outcomes_exitCode_agree.1 (Processor.ofSettings settings)
      (Directory.filer : Filer (StateM Workspace)) oneClass.pool outputInTheWay
  have hfailed : executed.1.report.failed = 1 := by
    rw [hdiscovered] at hdeclarations
    obtain ⟨hreport, _⟩ := run_execute_of_performed settings oneClass (σ := Workspace)
      (s := manifestInTheWay) (u := outputInTheWay) rfl
    rw [hreport, RunReport.failed, RunReport.count, houtcomes]
    exact countP_course_outputInTheWay hcourse hdeclarations
  obtain ⟨_, hfails⟩ := diagnostics_outcomes_exitCode_agree.2 options settings oneClass
    manifestInTheWay manifestInTheWay manifestInTheWay hresolve hload hvalid
  refine ⟨hresolve, hload, hvalid, hfails, ?_, ?_⟩
  · rw [hfails.exitCode_eq, hfailed]
    rfl
  · rw [hfails.complaint_eq, hfailed]
    rfl

end Command

end ToStringGen
