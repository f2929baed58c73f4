import ToStringGen.Datum
import ToStringGen.Fault
import ToStringGen.Json
import ToStringGen.Log.Level
import ToStringGen.Path
import ToStringGen.Text.Blank
import ToStringGen.Text.Quoted
import ToStringGen.Toml

/-!
# Settings

What a run of the generator can be told: the marker annotation, the output
directory, the log level and the limit on passes. Every key of a settings file is
optional, and settings are valid when the marker is not blank, at least one pass
is allowed and the log level is known.
-/

namespace ToStringGen

/-- The marker annotation that is looked for unless another is set. -/
def defaultMarker : String := "ru.otus.annotation.CustomToString"

/-- The settings of a run. -/
structure Settings where
  /-- The annotation that selects a type, by its qualified or simple name. -/
  marker : String := defaultMarker
  /-- The directory that generated sources are written to. -/
  outputDir : Path := ⟨"generated-sources"⟩
  /-- The log level, as it was written. -/
  logLevel : String := "info"
  /-- The greatest number of processing passes. -/
  maxPasses : Nat := 16
  deriving DecidableEq, Repr, Inhabited

/-- A value that was understood but is not acceptable. -/
inductive InvalidSetting where
  | blankMarker
  | noPasses
  | unknownLevel (text : String)
  /-- The settings file at a path is not text. -/
  | notText (path : Path) (fault : Text.Utf8.Malformed)
  deriving DecidableEq, Repr

/-- The wording of the objection to a value. -/
def InvalidSetting.message : InvalidSetting → String
  | blankMarker => "marker_annotation cannot be empty"
  | noPasses => "max_passes must be at least 1"
  | unknownLevel text => Log.Level.unknown text
  | notText path fault => path.text ++ ": " ++ fault.message

/-- Why settings could not be obtained. -/
inductive SettingsError where
  /-- The file could not be read. -/
  | io (fault : Fault)
  /-- The text is not TOML, or not the TOML form of settings. -/
  | toml
  /-- The text is not JSON, or not the JSON form of settings. -/
  | json
  | invalid (reason : InvalidSetting)
  deriving DecidableEq, Repr

/-- The reason given for a text that does not describe settings. -/
def notSettings : String := "the text does not describe settings"

namespace SettingsError

/-- The wording of a failure. -/
def message : SettingsError → String
  | io fault => "I/O error: " ++ fault.message
  | toml => "TOML error: " ++ notSettings
  | json => "JSON error: " ++ notSettings
  | invalid reason => "invalid configuration: " ++ reason.message

/-- What a failure goes back to. -/
def causes : SettingsError → List String
  | io fault => [fault.message]
  | toml => [notSettings]
  | json => [notSettings]
  | invalid _ => []

end SettingsError

namespace Settings

/-- Accepts settings that a run can work with. -/
def validate (settings : Settings) : Except InvalidSetting Unit :=
  if Text.isBlank settings.marker then .error .blankMarker
  else if settings.maxPasses = 0 then .error .noPasses
  else
    match Log.Level.parse? settings.logLevel with
    | none => .error (.unknownLevel settings.logLevel)
    | some _ => .ok ()

/-- Reads settings from data. -/
def ofDatum? (dialect : Datum.Dialect) (datum : Datum) : Option Settings :=
  let fields := ["marker_annotation", "output_dir", "log_level", "max_passes"]
  match Datum.record? dialect fields datum with
  | some [marker, outputDir, logLevel, maxPasses] => do
      let defaults : Settings := {}
      let marker ← Datum.optional Datum.text? defaults.marker marker
      let outputDir ← Datum.optional Datum.text? defaults.outputDir.text outputDir
      let logLevel ← Datum.optional Datum.text? defaults.logLevel logLevel
      let maxPasses ← Datum.optional Datum.natural? defaults.maxPasses maxPasses
      return { marker, outputDir := ⟨outputDir⟩, logLevel, maxPasses }
  | _ => none

/-- Accepts settings that have been read, if they are valid. -/
def checked (settings : Settings) : Except SettingsError Settings :=
  match settings.validate with
  | .error reason => .error (.invalid reason)
  | .ok () => .ok settings

/-- Reads settings from a JSON text. No text at all sets nothing. -/
def ofJson (bytes : Text.Bytes) : Except SettingsError Settings :=
  if bytes.isEmpty then .ok {}
  else
    match (Json.parse? bytes).bind (ofDatum? Datum.json) with
    | none => .error .json
    | some settings => settings.checked

/-- Reads settings from a TOML text. -/
def ofToml (text : String) : Except SettingsError Settings :=
  match (Toml.parse? text).bind (ofDatum? Datum.toml) with
  | none => .error .toml
  | some settings => settings.checked

/-- Reads the contents of a settings file. The extension `json` announces JSON, and any other
file holds TOML. -/
def ofFile (path : Path) (contents : Text.Bytes) : Except SettingsError Settings :=
  if path.extension? = some "json" then ofJson contents
  else
    match Text.Utf8.decode contents with
    | .error fault => .error (.invalid (.notText path fault))
    | .ok text => ofToml text

/-- The settings written out with every key. -/
def describe (settings : Settings) : String :=
  "GeneratorConfig \x7b marker_annotation: " ++
    Text.Quoted.quote Text.Quoted.name settings.marker ++ ", output_dir: " ++
    Text.Quoted.quote Text.Quoted.path settings.outputDir.text ++ ", log_level: " ++
    Text.Quoted.quote Text.Quoted.name settings.logLevel ++ ", max_passes: " ++
    toString settings.maxPasses ++ " \x7d"

end Settings

end ToStringGen
