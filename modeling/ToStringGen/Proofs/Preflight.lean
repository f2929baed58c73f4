import ToStringGen.Proofs.Arguments
import ToStringGen.Proofs.Looking
import ToStringGen.Proofs.Processing.Preview
import ToStringGen.Proofs.Reporting

/-!
# Checking is an exact preflight

Both commands look at the settings and at the manifest before they do anything else. As
long as there is something to object to in them, neither succeeds and nothing is written.
A dry run of an acceptable manifest cannot fail any more, so that a check succeeds exactly
when a dry run would.
-/

namespace ToStringGen

open Command
open Text (Bytes)

variable {Handle σ α β : Type}

/-- A dry run writes every class that it has to: nothing fails in memory. -/
theorem failed_rehearse (settings : Settings) (manifest : Manifest) :
    (rehearse settings manifest).report.failed = 0 := by
  obtain ⟨report, events, pool, hrun, houtcomes⟩ :=
    (Processor.ofSettings settings).run_runToCompletion manifest.types
  have hreport : (rehearse settings manifest).report = report :=
    congrArg (fun result => result.1.1) hrun
  rw [hreport, RunReport.failed, RunReport.count, List.countP_eq_zero]
  intro outcome hmem
  have hannounced : some outcome ∈ report.outcomes.map some := List.mem_map_of_mem hmem
  rw [houtcomes] at hannounced
  obtain ⟨declaration, _, hdecided⟩ := List.mem_map.mp hannounced
  rw [TypeDeclaration.announced?] at hdecided
  cases hdecision : declaration.decision (Processor.ofSettings settings).marker with
  | notAnnotated => simp [hdecision, Decision.outcome?] at hdecided
  | _ =>
    simp only [hdecision, Decision.outcome?, Option.some.injEq] at hdecided
    rw [← hdecided]
    exact Bool.noConfusion

namespace Command

variable [Volume Handle (StateM σ)]

/-- The settings before the options of the command line are put in place: those of the settings
file, or the default ones if no file applies. -/
inductive BaseSettings (s : σ) (config : Option Path) : Settings → Prop
  | default (h : settingsFile? s config = none) : BaseSettings s config {}
  | file {path : Path} {contents : Bytes} {settings : Settings}
      (h : settingsFile? s config = some path) (hcontents : contentsAt s path = .ok contents)
      (hfile : Settings.ofFile path contents = .ok settings) : BaseSettings s config settings

/-- What there is to object to before anything is generated. -/
inductive Objection (s : σ) (overrides : Overrides) (manifest : Path) : Prop
  /-- The settings file cannot be read. -/
  | unreadableSettings {path : Path} {fault : Fault}
      (h : settingsFile? s overrides.config = some path)
      (hcontents : contentsAt s path = .error fault)
  /-- The settings file does not hold valid settings. -/
  | malformedSettings {path : Path} {contents : Bytes} {error : SettingsError}
      (h : settingsFile? s overrides.config = some path)
      (hcontents : contentsAt s path = .ok contents)
      (hfile : Settings.ofFile path contents = .error error)
  /-- The options of the command line make the settings invalid. -/
  | invalidSettings {base : Settings} {reason : InvalidSetting}
      (h : BaseSettings s overrides.config base)
      (hinvalid : (overrides.apply base).validate = .error reason)
  /-- The manifest cannot be read. -/
  | unreadableManifest {fault : Fault} (h : contentsAt s manifest = .error fault)
  /-- The manifest is not text. -/
  | binaryManifest {contents : Bytes} {fault : Text.Utf8.Malformed}
      (h : contentsAt s manifest = .ok contents) (htext : Text.Utf8.decode contents = .error fault)
  /-- The text is not that of a manifest. -/
  | malformedManifest {contents : Bytes} {text : String} {error : ManifestError}
      (h : contentsAt s manifest = .ok contents) (htext : Text.Utf8.decode contents = .ok text)
      (htoml : Manifest.ofToml text = .error error)
  /-- The manifest lists no type, a type or a field that is not well named, or one of them twice. -/
  | invalidManifest {contents : Bytes} {text : String} {listed : Manifest}
      (h : contentsAt s manifest = .ok contents) (htext : Text.Utf8.decode contents = .ok text)
      (htoml : Manifest.ofToml text = .ok listed)
      (hinvalid : listed.types = [] ∨
        (∃ declaration ∈ listed.types, ¬declaration.WellFormed) ∨
        ¬(listed.types.map TypeDeclaration.qualifiedName).Nodup)

/-- The settings or the manifest are refused, in the order in which they are looked at. -/
inductive Refused (s : σ) (overrides : Overrides) (manifest : Path) : Prop
  | settings {failure : Failure}
      (h : (resolve overrides : StateM σ (Except Failure Settings)).run s = (.error failure, s))
  | unloaded {settings : Settings} {error : ManifestError}
      (hresolve : (resolve overrides : StateM σ (Except Failure Settings)).run s =
        (.ok settings, s))
      (hload : (loadManifest manifest : StateM σ (Except ManifestError Manifest)).run s =
        (.error error, s))
  | invalid {settings : Settings} {listed : Manifest} {error : ManifestError}
      (hresolve : (resolve overrides : StateM σ (Except Failure Settings)).run s =
        (.ok settings, s))
      (hload : (loadManifest manifest : StateM σ (Except ManifestError Manifest)).run s =
        (.ok listed, s))
      (hinvalid : listed.validate = .error error)

/-- The settings and the manifest are accepted. -/
structure Accepted (s : σ) (overrides : Overrides) (manifest : Path) : Prop where
  exists_settings : ∃ settings,
    (resolve overrides : StateM σ (Except Failure Settings)).run s = (.ok settings, s)
  exists_manifest : ∃ listed,
    (loadManifest manifest : StateM σ (Except ManifestError Manifest)).run s = (.ok listed, s) ∧
      listed.validate = .ok ()

/-- What is refused is not accepted. -/
theorem Refused.not_accepted {s : σ} {overrides : Overrides} {manifest : Path}
    (h : Refused s overrides manifest) : ¬Accepted s overrides manifest := by
  rintro ⟨⟨settings, hresolve⟩, listed, hload, hvalid⟩
  cases h with
  | settings h =>
    rw [h] at hresolve
    cases hresolve
  | unloaded _ h =>
    rw [h] at hload
    cases hload
  | invalid _ h hinvalid =>
    rw [h] at hload
    cases hload
    rw [hinvalid] at hvalid
    cases hvalid

section Still

variable [Volume.Still σ] {s : σ}

/-- Settings and manifest are refused or accepted. -/
theorem refused_or_accepted (s : σ) (overrides : Overrides) (manifest : Path) :
    Refused s overrides manifest ∨ Accepted s overrides manifest := by
  have hresolve := (resolve_leaves overrides).run_eq s
  have hload := (loadManifest_leaves manifest).run_eq s
  cases hsettings : ((resolve overrides : StateM σ (Except Failure Settings)).run s).1 with
  | error failure => exact .inl (.settings (hsettings ▸ hresolve))
  | ok settings =>
    rw [hsettings] at hresolve
    cases hlisted :
        ((loadManifest manifest : StateM σ (Except ManifestError Manifest)).run s).1 with
    | error error => exact .inl (.unloaded hresolve (hlisted ▸ hload))
    | ok listed =>
      rw [hlisted] at hload
      cases hvalid : listed.validate with
      | error error => exact .inl (.invalid hresolve hload hvalid)
      | ok => exact .inr ⟨⟨settings, hresolve⟩, listed, hload, hvalid⟩

/-- Settings to which there is no objection are resolved. -/
theorem exists_settings_of_not_objection {overrides : Overrides} {manifest : Path}
    (h : ¬Objection s overrides manifest) : ∃ settings,
      (resolve overrides : StateM σ (Except Failure Settings)).run s = (.ok settings, s) := by
  have hvalid {base : Settings} (hbase : BaseSettings s overrides.config base) :
      ∃ settings, overrides.finish base = .ok settings := by
    cases hvalid : (overrides.apply base).validate with
    | error reason => exact absurd (.invalidSettings hbase hvalid) h
    | ok => exact ⟨overrides.apply base, by rw [Overrides.finish, hvalid]⟩
  cases hpath : settingsFile? s overrides.config with
  | none =>
    obtain ⟨settings, hfinish⟩ := hvalid (.default hpath)
    exact ⟨settings, by rw [run_resolve_of_none hpath, hfinish]⟩
  | some path =>
    rw [run_resolve_of_some hpath]
    cases hcontents : contentsAt s path with
    | error fault => exact absurd (.unreadableSettings hpath hcontents) h
    | ok contents =>
      cases hfile : Settings.ofFile path contents with
      | error error => exact absurd (.malformedSettings hpath hcontents hfile) h
      | ok base =>
        obtain ⟨settings, hfinish⟩ := hvalid (.file hpath hcontents hfile)
        exact ⟨settings, by simp only [hfile, hfinish]⟩

/-- A manifest to which there is no objection is loaded and valid. -/
theorem exists_manifest_of_not_objection {overrides : Overrides} {manifest : Path}
    (h : ¬Objection s overrides manifest) : ∃ listed,
      (loadManifest manifest : StateM σ (Except ManifestError Manifest)).run s =
        (.ok listed, s) ∧ listed.validate = .ok () := by
  rw [run_loadManifest]
  cases hcontents : contentsAt s manifest with
  | error fault => exact absurd (.unreadableManifest hcontents) h
  | ok contents =>
    cases htext : Text.Utf8.decode contents with
    | error fault => exact absurd (.binaryManifest hcontents htext) h
    | ok text =>
      cases htoml : Manifest.ofToml text with
      | error error => exact absurd (.malformedManifest hcontents htext htoml) h
      | ok listed =>
        refine ⟨listed, by simp only [htext, htoml], Manifest.validate_eq_ok_iff.mpr ?_⟩
        have hlisted := fun hinvalid => h (.invalidManifest hcontents htext htoml hinvalid)
        refine ⟨fun hnone => hlisted (.inl hnone), fun declaration hmem => ?_, ?_⟩
        · by_contra hnot
          exact hlisted (.inr (.inl ⟨declaration, hmem, hnot⟩))
        · by_contra hnot
          exact hlisted (.inr (.inr hnot))

/-- What there is an objection to is not accepted. -/
theorem Objection.not_accepted {overrides : Overrides} {manifest : Path}
    (h : Objection s overrides manifest) : ¬Accepted s overrides manifest := by
  rintro ⟨⟨settings, hresolve⟩, accepted, hload, hvalid⟩
  rw [run_loadManifest] at hload
  cases h with
  | unreadableSettings h hcontents =>
    rw [run_resolve_of_some h, hcontents] at hresolve
    cases hresolve
  | malformedSettings h hcontents hfile =>
    rw [run_resolve_of_some h, hcontents] at hresolve
    simp only [hfile] at hresolve
    cases hresolve
  | invalidSettings h hinvalid =>
    cases h with
    | default h =>
      rw [run_resolve_of_none h, Overrides.finish, hinvalid] at hresolve
      cases hresolve
    | file h hcontents hfile =>
      rw [run_resolve_of_some h, hcontents] at hresolve
      simp only [hfile, Overrides.finish, hinvalid] at hresolve
      cases hresolve
  | unreadableManifest h =>
    rw [h] at hload
    cases hload
  | binaryManifest h htext =>
    rw [h] at hload
    simp only [htext] at hload
    cases hload
  | malformedManifest h htext htoml =>
    rw [h] at hload
    simp only [htext, htoml] at hload
    cases hload
  | invalidManifest h htext htoml hinvalid =>
    rw [h] at hload
    simp only [htext, htoml] at hload
    cases hload
    obtain ⟨hsome, hwell, hnodup⟩ := Manifest.validate_eq_ok_iff.mp hvalid
    rcases hinvalid with hnone | ⟨declaration, hmem, hnot⟩ | hnot
    · exact hsome hnone
    · exact hnot (hwell declaration hmem)
    · exact hnot hnodup

/-- Exactly what there is no objection to is accepted. -/
theorem accepted_iff {overrides : Overrides} {manifest : Path} :
    Accepted s overrides manifest ↔ ¬Objection s overrides manifest :=
  ⟨fun haccepted hobjection => hobjection.not_accepted haccepted,
    fun h => ⟨exists_settings_of_not_objection h, exists_manifest_of_not_objection h⟩⟩

end Still

/-- What the options of `check` put in place of settings. -/
def CheckOptions.overrides (options : CheckOptions) : Overrides :=
  { config := options.config, marker := options.marker }

/-- Whatever is refused makes `check` fail. -/
theorem Refused.check_fails {s : σ} {options : CheckOptions}
    (h : Refused s options.overrides options.manifest) :
    ((check options : StateM σ Transcript).run s).1.failure.isSome = true := by
  rw [CheckOptions.overrides] at h
  cases h with
  | settings h =>
    rw [check, run_bind, h]
    rfl
  | unloaded hresolve hload =>
    rw [check, run_bind, hresolve]
    simp only [run_bind, hload]
    rfl
  | invalid hresolve hload hinvalid =>
    rw [check, run_bind, hresolve]
    simp only [run_bind, hload, hinvalid]
    rfl

/-- What is accepted makes `check` succeed. -/
theorem Accepted.check_succeeds {s : σ} {options : CheckOptions}
    (h : Accepted s options.overrides options.manifest) :
    ((check options : StateM σ Transcript).run s).1.failure = none := by
  obtain ⟨⟨settings, hresolve⟩, listed, hload, hvalid⟩ := h
  rw [CheckOptions.overrides] at hresolve
  rw [check, run_bind, hresolve]
  simp only [run_bind, hload, hvalid]
  rfl

variable [MonadStateOf (Directory Handle) (StateM σ)]

/-- Whatever is refused makes `generate` fail before it changes anything. -/
theorem Refused.generate_fails {s : σ} {options : GenerateOptions}
    (h : Refused s options.overrides options.manifest) :
    ∃ transcript, (generate options : StateM σ Transcript).run s = (transcript, s) ∧
      transcript.failure.isSome = true := by
  have hlevel {settings : Settings}
      (hresolve : (resolve options.overrides : StateM σ (Except Failure Settings)).run s =
        (.ok settings, s)) : ∃ level, Log.Level.parse settings.logLevel = .ok level :=
    exists_level_of_validate (validate_of_resolve hresolve)
  rw [GenerateOptions.overrides] at h hlevel
  cases h with
  | settings h =>
    rw [generate, run_bind, h]
    exact ⟨_, rfl, rfl⟩
  | unloaded hresolve hload =>
    obtain ⟨level, hlevel⟩ := hlevel hresolve
    rw [generate, run_bind, hresolve]
    simp only [hlevel, run_bind, hload]
    exact ⟨_, rfl, rfl⟩
  | invalid hresolve hload hinvalid =>
    obtain ⟨level, hlevel⟩ := hlevel hresolve
    rw [generate, run_bind, hresolve]
    simp only [hlevel, run_bind, hload, hinvalid]
    exact ⟨_, rfl, rfl⟩

/-- What is accepted makes a dry run succeed, and the dry run changes nothing. -/
theorem Accepted.rehearsal_succeeds {s : σ} {options : GenerateOptions}
    (hdry : options.dryRun = true) (h : Accepted s options.overrides options.manifest) :
    ∃ transcript, (generate options : StateM σ Transcript).run s = (transcript, s) ∧
      transcript.failure = none := by
  obtain ⟨⟨settings, hresolve⟩, listed, hload, hvalid⟩ := h
  obtain ⟨transcript, hrun, hfailure, _⟩ := run_generate hresolve hload hvalid
  have hexecute : (execute settings listed options.dryRun : StateM σ Execution).run s =
      (rehearse settings listed, s) := by
    rw [execute, if_pos hdry]
    rfl
  rw [hexecute] at hrun hfailure
  exact ⟨transcript, hrun, by rw [hfailure, failed_rehearse]; rfl⟩

/-- A dry run changes nothing. -/
theorem generate_leaves [Volume.Still σ] {options : GenerateOptions}
    (hdry : options.dryRun = true) : Leaves (generate options : StateM σ Transcript) := by
  intro s
  rcases refused_or_accepted s options.overrides options.manifest with hrefused | haccepted
  · obtain ⟨transcript, hrun, _⟩ := hrefused.generate_fails
    rw [hrun]
  · obtain ⟨transcript, hrun, _⟩ := haccepted.rehearsal_succeeds hdry
    rw [hrun]

/-- A command line other than one for a run that writes changes nothing. -/
theorem run_leaves [Volume.Still σ] {arguments : List String}
    (h : ∀ options, Invocation.parse arguments = .generate options → options.dryRun = true)
    (directives : Option String) : Leaves (run directives arguments : StateM σ Completion) := by
  rw [run]
  split
  · next options hparse => exact (generate_leaves (h options hparse)).bind fun _ => .pure _
  · exact (check_leaves _).bind fun _ => .pure _
  all_goals exact .pure _

/-- The exit code of a command tells whether it failed. -/
theorem exitCode_completion (transcript : Transcript) (directives : Option String) :
    (transcript.completion directives).exitCode =
      if transcript.failure.isSome then 1 else 0 := rfl

/-- Checking is an exact preflight, on every volume on which looking changes nothing. As long as
there is something to object to in the settings or in the manifest, `generate` fails and leaves
everything as it is. A dry run and a check leave everything as it is in any case. A check succeeds
exactly when the dry run that it stands for does, and that is when there is nothing to object to.
The dry run has the arguments of the check after its flag. -/
theorem check_isExactPreflight [Volume.Still σ] (directives : Option String) (s : σ) :
    (∀ arguments options, Invocation.parse arguments = .generate options →
      Objection s options.overrides options.manifest →
      ∃ completion, (run directives arguments : StateM σ Completion).run s = (completion, s) ∧
        completion.exitCode = 1) ∧
    (∀ arguments,
      (∀ options, Invocation.parse arguments = .generate options → options.dryRun = true) →
      ((run directives arguments : StateM σ Completion).run s).2 = s) ∧
    (∀ checking rehearsing options, Invocation.parse checking = .check options →
      Invocation.parse rehearsing = .generate options.rehearsal →
      let checked := ((run directives checking : StateM σ Completion).run s).1
      let rehearsed := ((run directives rehearsing : StateM σ Completion).run s).1
      (checked.exitCode = 0 ↔ rehearsed.exitCode = 0) ∧
        (checked.exitCode = 0 ↔ ¬Objection s options.overrides options.manifest)) ∧
    (∀ arguments options, Invocation.parse ("check" :: arguments) = .check options →
      Invocation.parse ("generate" :: "--dry-run" :: arguments) =
        .generate options.rehearsal) := by
  refine ⟨?_, ?_, ?_, fun _ _ => parse_rehearsal⟩
  · intro arguments options hparse hobjection
    have hrefused : Refused s options.overrides options.manifest :=
      (refused_or_accepted s _ _).resolve_right fun haccepted =>
        accepted_iff.mp haccepted hobjection
    obtain ⟨transcript, hrun, hfailure⟩ := hrefused.generate_fails
    refine ⟨transcript.completion directives, ?_, ?_⟩
    · rw [run, hparse]
      simp only [run_bind, hrun, run_pure]
    · rw [exitCode_completion, if_pos hfailure]
  · exact fun arguments h => run_leaves h directives s
  · intro checking rehearsing options hcheck hrehearsal
    rw [run, hcheck, run, hrehearsal, ← accepted_iff]
    simp only [run_bind, run_pure, exitCode_completion]
    rcases refused_or_accepted s options.overrides options.manifest with hrefused | haccepted
    · have hnot : ¬Accepted s options.overrides options.manifest := hrefused.not_accepted
      obtain ⟨transcript, hrun, hfailure⟩ :
          ∃ transcript, (generate options.rehearsal : StateM σ Transcript).run s =
            (transcript, s) ∧ transcript.failure.isSome = true :=
        Refused.generate_fails hrefused
      simp [hrefused.check_fails, hrun, hfailure, hnot]
    · obtain ⟨transcript, hrun, hfailure⟩ :
          ∃ transcript, (generate options.rehearsal : StateM σ Transcript).run s =
            (transcript, s) ∧ transcript.failure = none :=
        Accepted.rehearsal_succeeds rfl haccepted
      simp [haccepted.check_succeeds, hrun, hfailure, haccepted]

/-- Nothing can be read at the path `x` of a workspace whose only file is `m`. -/
theorem contentsAt_manifestInTheWay :
    contentsAt manifestInTheWay ⟨"x"⟩ = .error (.system .notFound) := by
  change manifestInTheWay.disk.read ⟨"x"⟩ = _
  simp +decide [Disk.read, Disk.locate, Disk.follow, Disk.start, Disk.steps, Text.segments,
    Disk.linkLimit, manifestInTheWay, Disk.entry?_put, Disk.entry?_empty]

/-- The manifest at `m` is accepted, with the default settings but for the marker. -/
theorem accepted_manifestInTheWay :
    Accepted manifestInTheWay { marker := some "CustomToString" } ⟨"m"⟩ where
  exists_settings := by
    have hfinish : ({ marker := some "CustomToString" } : Overrides).finish {} =
        .ok { marker := "CustomToString" } := by
      decide +kernel
    refine ⟨{ marker := "CustomToString" }, ?_⟩
    rw [← hfinish]
    exact run_resolve_of_isFile_eq_false rfl
      (congrArg (·, manifestInTheWay) isFile_manifestInTheWay)
  exists_manifest := by
    refine ⟨oneClass, ?_, by decide +kernel⟩
    rw [← ofToml_oneClassText]
    exact run_loadManifest_of_read (congrArg (·, manifestInTheWay) read_manifestInTheWay)

/-- In a workspace whose only file is a manifest at `m`, a manifest at `x` is objected to before
anything is generated, and the one at `m` passes a check and the dry run that it stands for. -/
theorem check_isExactPreflight_manifestInTheWay :
    let act (arguments : List String) : Completion × Workspace :=
      (run none arguments : StateM Workspace Completion).run manifestInTheWay
    let generated := act ["generate", "-m", "x"]
    let checked := act ["check", "--manifest=m", "--marker", "CustomToString"]
    let rehearsed := act ["generate", "--dry-run", "--manifest=m", "--marker", "CustomToString"]
    (generated.1.exitCode = 1 ∧ generated.2 = manifestInTheWay) ∧
      (checked.1.exitCode = 0 ∧ checked.2 = manifestInTheWay) ∧
      rehearsed.1.exitCode = 0 ∧ rehearsed.2 = manifestInTheWay := by
  intro act generated checked rehearsed
  let options : CheckOptions := { manifest := ⟨"m"⟩, marker := some "CustomToString" }
  have hcheck : Invocation.parse ["check", "--manifest=m", "--marker", "CustomToString"] =
      .check options := by
    decide +kernel
  obtain ⟨hobjection, hleaves, hexact, hrehearsal⟩ := check_isExactPreflight none manifestInTheWay
  have hrehearse := hrehearsal _ _ hcheck
  obtain ⟨completion, hgenerated, hfailed⟩ := hobjection ["generate", "-m", "x"]
    { manifest := ⟨"x"⟩ } (by decide +kernel) (.unreadableManifest contentsAt_manifestInTheWay)
  have hchecked : checked.1.exitCode = 0 := by
    have haccepted : Accepted manifestInTheWay options.overrides options.manifest :=
      accepted_manifestInTheWay
    have hnone := haccepted.check_succeeds
    simp only [checked, act, run, hcheck, run_bind, run_pure, exitCode_completion, hnone]
    rfl
  have hdry : ∀ other, Invocation.parse
      ["generate", "--dry-run", "--manifest=m", "--marker", "CustomToString"] =
        .generate other → other.dryRun = true := by
    intro other hother
    rw [hrehearse] at hother
    cases hother
    rfl
  have hgenerated : generated = (completion, manifestInTheWay) := hgenerated
  rw [hgenerated]
  refine ⟨⟨hfailed, rfl⟩, ⟨hchecked, hleaves _ ?_⟩, ?_, hleaves _ hdry⟩
  · intro other hother
    rw [hcheck] at hother
    cases hother
  · exact (hexact _ _ options hcheck hrehearse).1.mp hchecked

end Command

end ToStringGen
