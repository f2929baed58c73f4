import ToStringGen.Proofs.Disk.Locate
import ToStringGen.Proofs.Layer
import ToStringGen.Proofs.Preflight

/-!
# Resolving settings in layers

Options of the command line come before the keys of the settings file, and these before the
defaults. Settings are resolved exactly if the file that applies can be read and is valid by
itself, and the settings are valid in the end; a run then goes by them as they are.
-/

namespace ToStringGen.Command

open Settings (Layer FileHolds IsValid)

variable {Handle σ : Type}

/-- Options in place of what a layer sets, and that in place of the defaults. -/
def Overrides.over (overrides : Overrides) (layer : Layer) : Settings :=
  let defaults : Settings := {}
  { marker := (overrides.marker.or layer.marker).getD defaults.marker
    outputDir := (overrides.output.or layer.outputDir).getD defaults.outputDir
    logLevel := (overrides.logLevel.or layer.logLevel).getD defaults.logLevel
    maxPasses := layer.maxPasses.getD defaults.maxPasses }

/-- Options are put in place of the settings that a layer makes of the defaults. -/
theorem apply_overDefaults (overrides : Overrides) (layer : Layer) :
    overrides.apply layer.overDefaults = overrides.over layer := by
  obtain ⟨config, output, marker, logLevel⟩ := overrides
  cases output <;> cases marker <;> cases logLevel <;> rfl

/-- Options are put in place of settings if valid ones result. -/
theorem finish_eq_ok_iff {overrides : Overrides} {base settings : Settings} :
    overrides.finish base = .ok settings ↔ settings = overrides.apply base ∧ settings.IsValid := by
  rw [Overrides.finish]
  constructor
  · intro h
    split at h
    · next hvalid =>
      cases h
      exact ⟨rfl, Settings.validate_eq_ok_iff.mp hvalid⟩
    · cases h
  · rintro ⟨rfl, hvalid⟩
    simp only [Settings.validate_eq_ok_iff.mpr hvalid]

section Layers

variable [Volume Handle (StateM σ)] {s : σ}

/-- The layer that applies in a state: what is set by the settings file, which can be read and is
valid by itself, or nothing if there is no settings file. -/
inductive LayerAt (s : σ) (config : Option Path) : Layer → Prop
  | nothing (h : settingsFile? s config = none) : LayerAt s config {}
  | file {path : Path} {contents : Text.Bytes} {dialect : Datum.Dialect} {datum : Datum}
      {layer : Layer} (h : settingsFile? s config = some path)
      (hcontents : contentsAt s path = .ok contents)
      (hholds : FileHolds path contents dialect datum) (hlayer : layer.IsHeldBy dialect datum)
      (hvalid : layer.overDefaults.IsValid) : LayerAt s config layer

/-- The settings to which options are applied are those that the layer makes of the defaults. -/
theorem baseSettings_iff {config : Option Path} {base : Settings} :
    BaseSettings s config base ↔
      ∃ layer, LayerAt s config layer ∧ base = layer.overDefaults := by
  constructor
  · intro h
    cases h with
    | default h => exact ⟨{}, .nothing h, rfl⟩
    | file h hcontents hfile =>
      obtain ⟨dialect, datum, layer, hholds, hlayer, rfl, hvalid⟩ :=
        Settings.ofFile_eq_ok_iff.mp hfile
      exact ⟨layer, .file h hcontents hholds hlayer hvalid, rfl⟩
  · rintro ⟨layer, h, rfl⟩
    cases h with
    | nothing h => exact .default h
    | file h hcontents hholds hlayer hvalid =>
      exact .file h hcontents (Settings.ofFile_eq_ok_iff.mpr
        ⟨_, _, layer, hholds, hlayer, rfl, hvalid⟩)

/-- Settings are resolved from those to which options are applied. -/
theorem resolve_eq_ok_iff [Volume.Still σ] {overrides : Overrides} {settings : Settings} :
    ((resolve overrides : StateM σ (Except Failure Settings)).run s).1 = .ok settings ↔
      ∃ base, BaseSettings s overrides.config base ∧ overrides.finish base = .ok settings := by
  cases hpath : settingsFile? s overrides.config with
  | none =>
    rw [run_resolve_of_none hpath]
    constructor
    · exact fun h => ⟨{}, .default hpath, h⟩
    · rintro ⟨base, hbase, h⟩
      cases hbase with
      | default => exact h
      | file hother => cases hpath.symm.trans hother
  | some path =>
    rw [run_resolve_of_some hpath]
    constructor
    · intro h
      simp only at h
      split at h
      · cases h
      · next contents hcontents =>
        split at h
        · cases h
        · next base hfile => exact ⟨base, .file hpath hcontents hfile, h⟩
    · rintro ⟨base, hbase, h⟩
      cases hbase with
      | default hother => cases hpath.symm.trans hother
      | file hother hcontents hfile =>
        obtain rfl := Option.some.inj (hpath.symm.trans hother)
        simp only [hcontents, hfile, h]

end Layers

/-- The settings file that is looked for is there exactly if its name leads from the working
directory, through links if need be, to a regular file. -/
theorem fileAt_defaultConfig_iff {workspace : Workspace} :
    fileAt workspace defaultConfig = true ↔ ∃ place contents,
      Disk.Walk workspace.disk true Disk.linkLimit workspace.disk.workingDirectory
        ["withtostring.toml"] (.occupied place (.file contents)) := by
  have hpath : defaultConfig.IsAdmissible := by decide +kernel
  have hstart : Disk.start defaultConfig.text workspace.disk.workingDirectory =
      workspace.disk.workingDirectory := rfl
  have hsteps : Disk.steps defaultConfig.text = ["withtostring.toml"] := by decide +kernel
  have hlocate : ∀ spot, workspace.disk.locate true defaultConfig = .ok spot ↔
      Disk.Walk workspace.disk true Disk.linkLimit workspace.disk.workingDirectory
        ["withtostring.toml"] spot := by
    intro spot
    rw [Disk.locate_eq_ok_iff, hstart, hsteps]
    exact and_iff_right hpath
  change workspace.disk.isFile defaultConfig = true ↔ _
  simp only [← hlocate, Disk.isFile]
  constructor
  · intro h
    split at h
    · next place contents hfound => exact ⟨place, contents, hfound⟩
    · cases h
  · rintro ⟨place, contents, hfound⟩
    rw [hfound]

/-- A processor takes the marker and the limit of valid settings as they are. -/
theorem ofSettings_of_isValid {settings : Settings} (h : settings.IsValid) :
    ∃ hpasses, Processor.ofSettings settings =
      { marker := settings.marker, maxPasses := settings.maxPasses,
        one_le_maxPasses := hpasses } := by
  refine ⟨h.one_le_maxPasses, ?_⟩
  simp [Processor.ofSettings, Processor.withMaxPasses, Nat.max_eq_left h.one_le_maxPasses]

/-- With settings resolved, `generate` goes on at their log level, and tells them first. -/
theorem generate_of_resolve [Volume Handle (StateM σ)] [MonadStateOf (Directory Handle) (StateM σ)]
    {options : GenerateOptions} {settings : Settings} {level : Log.Level} {s t : σ}
    (h : (resolve options.overrides : StateM σ (Except Failure Settings)).run s =
      (.ok settings, t)) (hlevel : Log.Level.parse settings.logLevel = .ok level) :
    let transcript := ((generate options : StateM σ Transcript).run s).1
    transcript.logLevel = some level ∧
      transcript.events.head? = some (.settingsResolved settings) := by
  rw [GenerateOptions.overrides] at h
  rw [generate, run_bind, h]
  simp only [hlevel, run_bind]
  split
  · exact ⟨rfl, rfl⟩
  · split <;> exact ⟨rfl, rfl⟩

/-- Settings come in layers. In any state of any volume, resolving settings changes nothing, and
succeeds exactly if the settings file that applies, if any, can be read, is well formed and valid
by itself, and the settings that the options, the keys of the file and the defaults make, in this
order, are valid. The file that is looked for where none is named must be a regular one, in the
working directory. What is resolved is what `generate` goes by, with a log level that is known,
and its marker and limit are those of the processor. -/
theorem settings_come_in_layers :
    (∀ {σ Handle : Type} [Volume Handle (StateM σ)] [Volume.Still σ] (overrides : Overrides)
        (s : σ) (settings : Settings),
      (resolve overrides : StateM σ (Except Failure Settings)).run s = (.ok settings, s) ↔
        ∃ layer, LayerAt s overrides.config layer ∧ settings = overrides.over layer ∧
          settings.IsValid) ∧
    (∀ workspace : Workspace, fileAt workspace defaultConfig = true ↔ ∃ place contents,
      Disk.Walk workspace.disk true Disk.linkLimit workspace.disk.workingDirectory
        ["withtostring.toml"] (.occupied place (.file contents))) ∧
    (∀ {σ Handle : Type} [Volume Handle (StateM σ)] [MonadStateOf (Directory Handle) (StateM σ)]
        (options : GenerateOptions) (s t : σ) (settings : Settings),
      (resolve options.overrides : StateM σ (Except Failure Settings)).run s = (.ok settings, t) →
      let transcript := ((generate options : StateM σ Transcript).run s).1
      (∃ level, Log.Level.parse settings.logLevel = .ok level ∧
        transcript.logLevel = some level ∧
        transcript.events.head? = some (.settingsResolved settings)) ∧
      ∃ hpasses, Processor.ofSettings settings =
        { marker := settings.marker, maxPasses := settings.maxPasses,
          one_le_maxPasses := hpasses }) := by
  refine ⟨?_, fun _ => fileAt_defaultConfig_iff, ?_⟩
  · intro σ Handle _ _ overrides s settings
    have hleaves := (resolve_leaves overrides).run_eq s
    rw [hleaves, Prod.mk.injEq, and_iff_left rfl, resolve_eq_ok_iff]
    simp only [finish_eq_ok_iff, baseSettings_iff]
    constructor
    · rintro ⟨_, ⟨layer, hlayer, rfl⟩, heq, hvalid⟩
      exact ⟨layer, hlayer, heq.trans (apply_overDefaults overrides layer), hvalid⟩
    · rintro ⟨layer, hlayer, heq, hvalid⟩
      exact ⟨_, ⟨layer, hlayer, rfl⟩, heq.trans (apply_overDefaults overrides layer).symm, hvalid⟩
  · intro σ Handle _ _ options s t settings h transcript
    have hvalid := Settings.validate_eq_ok_iff.mp (validate_of_resolve h)
    obtain ⟨level, hlevel⟩ := hvalid.exists_level
    exact ⟨⟨level, hlevel, generate_of_resolve h hlevel⟩, ofSettings_of_isValid hvalid⟩

/-- The text of a settings file that leaves out one key. -/
def settingsText : String :=
  "max_passes = 3\noutput_dir = \"below\"\nlog_level = \"Debug\"\n"

/-- A workspace in which the settings file is a link to a file in a directory. -/
def linkedSettings : Workspace where
  directory := { root := ⟨""⟩ }
  disk :=
    ((({} : Disk).put ["withtostring.toml"] (.link "conf/base")).put ["conf"] .directory).put
      ["conf", "base"] (.file (Text.Utf8.encode settingsText))

/-- The link leads to the file. -/
theorem locate_linkedSettings :
    linkedSettings.disk.locate true defaultConfig =
      .ok (.occupied ["conf", "base"] (.file (Text.Utf8.encode settingsText))) := by
  simp +decide [Disk.locate, Disk.follow, Disk.start, Disk.steps, Text.segments, Disk.linkLimit,
    linkedSettings, defaultConfig, Disk.entry?_put]

/-- The file that the link leads to sets what its text says. -/
theorem layerAt_linkedSettings : ∃ layer, LayerAt linkedSettings none layer ∧
    layer.overDefaults = { outputDir := ⟨"below"⟩, logLevel := "Debug", maxPasses := 3 } := by
  have hfile : fileAt linkedSettings defaultConfig = true := by
    change linkedSettings.disk.isFile defaultConfig = true
    rw [Disk.isFile, locate_linkedSettings]
  have hcontents : contentsAt linkedSettings defaultConfig =
      .ok (Text.Utf8.encode settingsText) := by
    change linkedSettings.disk.read defaultConfig = _
    rw [Disk.read, locate_linkedSettings]
  have hread : Settings.ofToml settingsText =
      .ok { outputDir := ⟨"below"⟩, logLevel := "Debug", maxPasses := 3 } := by
    decide +kernel
  obtain ⟨datum, layer, htoml, hlayer, heq, hvalid⟩ := Settings.ofToml_eq_ok_iff.mp hread
  have hholds : FileHolds defaultConfig (Text.Utf8.encode settingsText) Datum.toml datum :=
    .toml (by decide +kernel) (Text.Utf8.decode_encode settingsText) htoml
  exact ⟨layer, .file (if_pos hfile) hcontents hholds hlayer (heq ▸ hvalid), heq.symm⟩

/-- The output directory is that of the options, level and limit are those of the file, and the
marker is that of the defaults. -/
theorem settings_come_in_layers_linkedSettings :
    let options : GenerateOptions := { manifest := ⟨"m"⟩, output := some ⟨"o"⟩ }
    let settings : Settings := { outputDir := ⟨"o"⟩, logLevel := "Debug", maxPasses := 3 }
    let transcript := ((generate options : StateM Workspace Transcript).run linkedSettings).1
    fileAt linkedSettings defaultConfig = true ∧
      (resolve options.overrides : StateM Workspace (Except Failure Settings)).run
        linkedSettings = (.ok settings, linkedSettings) ∧
      transcript.logLevel = some .debug ∧
      transcript.events.head? = some (.settingsResolved settings) ∧
      Processor.ofSettings settings = { maxPasses := 3 } := by
  intro options settings transcript
  obtain ⟨hlayers, hfile, hgoes⟩ := settings_come_in_layers
  have hwalk := (Disk.locate_eq_ok_iff.mp locate_linkedSettings).2
  obtain ⟨layer, hlayer, heq⟩ := layerAt_linkedSettings
  have hsettings : settings = options.overrides.over layer := by
    rw [← apply_overDefaults, heq]
    rfl
  have hresolve : (resolve options.overrides : StateM Workspace (Except Failure Settings)).run
      linkedSettings = (.ok settings, linkedSettings) :=
    (hlayers options.overrides linkedSettings settings).mpr
      ⟨layer, hlayer, hsettings, Settings.validate_eq_ok_iff.mp (by decide +kernel)⟩
  obtain ⟨⟨level, hlevel, hlogLevel, hevents⟩, hpasses, hprocessor⟩ :=
    hgoes options linkedSettings linkedSettings settings hresolve
  have hdebug : Log.Level.parse settings.logLevel = .ok .debug := by decide +kernel
  obtain rfl : level = .debug := Except.ok.inj (hlevel.symm.trans hdebug)
  exact ⟨(hfile linkedSettings).mpr ⟨_, _, hwalk⟩, hresolve, hlogLevel, hevents, hprocessor⟩

end ToStringGen.Command
