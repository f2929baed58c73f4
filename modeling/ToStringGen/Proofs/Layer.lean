import ToStringGen.Proofs.Record
import ToStringGen.Proofs.Text.Utf8
import ToStringGen.Settings

/-!
# Settings in layers

A settings file sets the keys that are present in it and leaves the others as they are by
default. It is read exactly if its format, by its extension, makes it a record of such keys
and the settings that follow are valid.
-/

namespace ToStringGen.Settings

variable {dialect : Datum.Dialect} {datum : Datum} {settings : Settings}

/-- Settings that a run can work with. -/
structure IsValid (settings : Settings) : Prop where
  marker_not_blank : ∃ c ∈ settings.marker.toList, Text.whiteSpace.contains c = false
  one_le_maxPasses : 1 ≤ settings.maxPasses
  exists_level : ∃ level, Log.Level.parse settings.logLevel = .ok level

/-- A marker is blank unless it has a character that is not white space. -/
theorem isBlank_marker_eq_false_iff :
    Text.isBlank settings.marker = false ↔
      ∃ c ∈ settings.marker.toList, Text.whiteSpace.contains c = false := by
  rw [← Bool.not_eq_true, Text.isBlank_iff]
  simp

/-- A level is known exactly if it can be parsed. -/
theorem parse?_isSome_iff {text : String} :
    (Log.Level.parse? text).isSome = true ↔ ∃ level, Log.Level.parse text = .ok level := by
  unfold Log.Level.parse
  cases Log.Level.parse? text <;> simp

/-- Exactly the valid settings are accepted. -/
theorem validate_eq_ok_iff : settings.validate = .ok () ↔ settings.IsValid := by
  unfold validate
  split
  · next hblank =>
    refine ⟨fun h => (nomatch h), fun h => ?_⟩
    rw [isBlank_marker_eq_false_iff.mpr h.marker_not_blank] at hblank
    cases hblank
  · next hblank =>
    split
    · next hzero =>
      refine ⟨fun h => (nomatch h), fun h => ?_⟩
      have hpasses := h.one_le_maxPasses
      omega
    · next hzero =>
      split
      · next hlevel =>
        refine ⟨fun h => (nomatch h), fun h => ?_⟩
        have hsome := parse?_isSome_iff.mpr h.exists_level
        rw [hlevel] at hsome
        cases hsome
      · next level hlevel =>
        refine ⟨fun _ => ⟨?_, by omega, ?_⟩, fun _ => rfl⟩
        · exact isBlank_marker_eq_false_iff.mp (by simpa using hblank)
        · exact parse?_isSome_iff.mp (by rw [hlevel]; rfl)

/-- Settings that have been read are accepted if they are valid. -/
theorem checked_eq_ok_iff {result : Settings} :
    settings.checked = .ok result ↔ result = settings ∧ settings.IsValid := by
  rw [checked, ← validate_eq_ok_iff]
  cases settings.validate with
  | error reason => simp
  | ok => simp [eq_comm]

/-- The keys of a settings file. -/
def keys : List String := ["marker_annotation", "output_dir", "log_level", "max_passes"]

/-- What a settings file sets; `none` for a key that is absent. -/
structure Layer where
  marker : Option String := none
  outputDir : Option Path := none
  logLevel : Option String := none
  maxPasses : Option Nat := none
  deriving DecidableEq, Repr, Inhabited

/-- The settings that a layer makes of the default ones. -/
def Layer.overDefaults (layer : Layer) : Settings :=
  let defaults : Settings := {}
  { marker := layer.marker.getD defaults.marker
    outputDir := layer.outputDir.getD defaults.outputDir
    logLevel := layer.logLevel.getD defaults.logLevel
    maxPasses := layer.maxPasses.getD defaults.maxPasses }

/-- Data that set what a layer sets: a record in which just those keys are present, with values
of their kind. -/
structure Layer.IsHeldBy (layer : Layer) (dialect : Datum.Dialect) (datum : Datum) : Prop where
  isRecord : datum.IsRecord dialect keys
  marker_eq : (datum.value? keys "marker_annotation").map Datum.text? = layer.marker.map some
  outputDir_eq : (datum.value? keys "output_dir").map Datum.text? =
    (layer.outputDir.map Path.text).map some
  logLevel_eq : (datum.value? keys "log_level").map Datum.text? = layer.logLevel.map some
  maxPasses_eq : (datum.value? keys "max_passes").map Datum.natural? = layer.maxPasses.map some

/-- Settings are read from the data that hold a layer, as what it makes of the default ones. -/
theorem ofDatum?_eq_some_iff :
    ofDatum? dialect datum = some settings ↔
      ∃ layer : Layer, layer.IsHeldBy dialect datum ∧ settings = layer.overDefaults := by
  have hkeys : keys.Nodup := by decide
  by_cases hrecord : datum.IsRecord dialect keys
  · have hvalues : Datum.record? dialect
        ["marker_annotation", "output_dir", "log_level", "max_passes"] datum =
          some [datum.value? keys "marker_annotation", datum.value? keys "output_dir",
            datum.value? keys "log_level", datum.value? keys "max_passes"] :=
      (Datum.record?_eq_some_iff hkeys).mpr ⟨hrecord, rfl⟩
    simp only [ofDatum?, hvalues, Option.bind_eq_bind, Option.bind_eq_some_iff,
      Datum.optional_eq_some_iff, Option.pure_def, Option.some.injEq]
    constructor
    · rintro ⟨_, ⟨marker, hmarker, rfl⟩, _, ⟨outputDir, houtput, rfl⟩, _,
        ⟨logLevel, hlevel, rfl⟩, _, ⟨maxPasses, hpasses, rfl⟩, rfl⟩
      refine ⟨{ marker, outputDir := outputDir.map Path.mk, logLevel, maxPasses },
        ⟨hrecord, hmarker, ?_, hlevel, hpasses⟩, ?_⟩
      · simpa [Option.map_map, Function.comp_def] using houtput
      · cases outputDir <;> rfl
    · rintro ⟨⟨marker, outputDir, logLevel, maxPasses⟩, h, rfl⟩
      refine ⟨_, ⟨marker, h.marker_eq, rfl⟩, _, ⟨outputDir.map Path.text, h.outputDir_eq, rfl⟩,
        _, ⟨logLevel, h.logLevel_eq, rfl⟩, _, ⟨maxPasses, h.maxPasses_eq, rfl⟩, ?_⟩
      cases outputDir <;> rfl
  · have hnone : Datum.record? dialect
        ["marker_annotation", "output_dir", "log_level", "max_passes"] datum = none :=
      Datum.record?_eq_none hkeys hrecord
    simp only [ofDatum?, hnone]
    exact ⟨fun h => (nomatch h), fun ⟨_, h, _⟩ => absurd h.isRecord hrecord⟩

/-- The data of a settings file, in the format that its extension announces. A file of no bytes
has no keys in either format. -/
inductive FileHolds (path : Path) : Text.Bytes → Datum.Dialect → Datum → Prop
  | nothing {dialect : Datum.Dialect} : FileHolds path [] dialect (.table [])
  | json {contents : Text.Bytes} {datum : Datum} (hextension : path.extension? = some "json")
      (hjson : Json.parse? contents = some datum) : FileHolds path contents Datum.json datum
  | toml {contents : Text.Bytes} {text : String} {datum : Datum}
      (hextension : path.extension? ≠ some "json")
      (htext : Text.Utf8.decode contents = .ok text) (htoml : Toml.parse? text = some datum) :
      FileHolds path contents Datum.toml datum

/-- Data without keys hold the layer that sets nothing. -/
theorem isHeldBy_empty : ({} : Layer).IsHeldBy dialect (.table []) where
  isRecord := .table (by simp) (by simp)
  marker_eq := rfl
  outputDir_eq := rfl
  logLevel_eq := rfl
  maxPasses_eq := rfl

/-- The default settings are what is read from data without keys. -/
theorem eq_default_of_isHeldBy_empty {layer : Layer} (h : layer.IsHeldBy dialect (.table [])) :
    layer.overDefaults = {} := by
  have hread := ofDatum?_eq_some_iff.mpr ⟨layer, h, rfl⟩
  exact (Option.some.inj hread).symm

/-- The default settings are valid. -/
theorem isValid_default : ({} : Settings).IsValid :=
  validate_eq_ok_iff.mp (by decide +kernel)

/-- Settings are read from data and then checked. -/
theorem readAndChecked_eq_ok_iff {found : Option Datum} {error : SettingsError} :
    (match found.bind (ofDatum? dialect) with
      | none => Except.error error
      | some read => read.checked) = .ok settings ↔
      ∃ datum layer, found = some datum ∧ Layer.IsHeldBy layer dialect datum ∧
        settings = layer.overDefaults ∧ settings.IsValid := by
  constructor
  · intro h
    cases hread : found.bind (ofDatum? dialect) with
    | none => rw [hread] at h; cases h
    | some read =>
      rw [hread] at h
      obtain ⟨rfl, hvalid⟩ := checked_eq_ok_iff.mp h
      obtain ⟨datum, hfound, hdatum⟩ := Option.bind_eq_some_iff.mp hread
      obtain ⟨layer, hlayer, heq⟩ := ofDatum?_eq_some_iff.mp hdatum
      exact ⟨datum, layer, hfound, hlayer, heq, hvalid⟩
  · rintro ⟨datum, layer, rfl, hlayer, rfl, hvalid⟩
    rw [Option.bind_some, ofDatum?_eq_some_iff.mpr ⟨layer, hlayer, rfl⟩]
    exact checked_eq_ok_iff.mpr ⟨rfl, hvalid⟩

/-- A TOML text is read exactly if its data hold a layer whose settings are valid. -/
theorem ofToml_eq_ok_iff {text : String} :
    ofToml text = .ok settings ↔
      ∃ datum layer, Toml.parse? text = some datum ∧ Layer.IsHeldBy layer Datum.toml datum ∧
        settings = layer.overDefaults ∧ settings.IsValid :=
  readAndChecked_eq_ok_iff

/-- A settings file is read exactly if its data hold a layer whose settings are valid. -/
theorem ofFile_eq_ok_iff {path : Path} {contents : Text.Bytes} :
    ofFile path contents = .ok settings ↔
      ∃ dialect datum layer, FileHolds path contents dialect datum ∧
        Layer.IsHeldBy layer dialect datum ∧ settings = layer.overDefaults ∧
        settings.IsValid := by
  unfold ofFile
  split
  · next hextension =>
    unfold ofJson
    split
    · next hempty =>
      obtain rfl : contents = [] := List.isEmpty_iff.mp hempty
      constructor
      · intro h
        cases h
        exact ⟨Datum.json, _, {}, .nothing, isHeldBy_empty, rfl, isValid_default⟩
      · rintro ⟨dialect, datum, layer, hholds, hlayer, rfl, -⟩
        cases hholds with
        | nothing => rw [eq_default_of_isHeldBy_empty hlayer]
        | json _ hjson => cases hjson
        | toml hother => exact absurd hextension hother
    · next hsome =>
      refine readAndChecked_eq_ok_iff.trans ⟨?_, ?_⟩
      · rintro ⟨datum, layer, hjson, h⟩
        exact ⟨Datum.json, datum, layer, .json hextension hjson, h⟩
      · rintro ⟨dialect, datum, layer, hholds, h⟩
        cases hholds with
        | nothing => exact absurd rfl hsome
        | json _ hjson => exact ⟨datum, layer, hjson, h⟩
        | toml hother => exact absurd hextension hother
  · next hextension =>
    constructor
    · intro h
      split at h
      · cases h
      · next text htext =>
        obtain ⟨datum, layer, htoml, h⟩ := ofToml_eq_ok_iff.mp h
        exact ⟨Datum.toml, datum, layer, .toml hextension htext htoml, h⟩
    · rintro ⟨dialect, datum, layer, hholds, hlayer, rfl, hvalid⟩
      cases hholds with
      | nothing =>
        have htext : Text.Utf8.decode [] = .ok "" := by simpa using Text.Utf8.decode_encode ""
        have htoml : ofToml "" = .ok {} := by decide +kernel
        rw [eq_default_of_isHeldBy_empty hlayer, htext]
        exact htoml
      | json hother => exact absurd hother hextension
      | toml _ htext htoml =>
        rw [htext]
        exact ofToml_eq_ok_iff.mpr ⟨datum, layer, htoml, hlayer, rfl, hvalid⟩

end ToStringGen.Settings
