import ToStringGen.Command.Failure
import ToStringGen.Settings
import ToStringGen.Volume

/-!
# Resolving settings

Settings come in layers: the defaults, then a settings file, then the options of
the command line. The file is the one named on the command line or else the one
found in the working directory, and must be valid by itself.
-/

namespace ToStringGen.Command

/-- The options that bear on the settings. -/
structure Overrides where
  config : Option Path := none
  output : Option Path := none
  marker : Option String := none
  logLevel : Option String := none
  deriving DecidableEq, Repr, Inhabited

/-- The settings file that is looked for when none is named. -/
def defaultConfig : Path := ⟨"withtostring.toml"⟩

/-- Puts the options in place of the settings that they stand for. -/
def Overrides.apply (overrides : Overrides) (settings : Settings) : Settings :=
  { settings with
    outputDir := overrides.output.getD settings.outputDir
    marker := overrides.marker.getD settings.marker
    logLevel := overrides.logLevel.getD settings.logLevel }

/-- The failure that a settings error is. -/
def settingsFailure (error : SettingsError) : Failure :=
  { message := error.message, causes := error.causes }

/-- Settings after the options are applied, if they are valid. -/
def Overrides.finish (overrides : Overrides) (base : Settings) : Except Failure Settings :=
  let settings := overrides.apply base
  match settings.validate with
  | .ok () => .ok settings
  | .error reason =>
      .error ((settingsFailure (.invalid reason)).within "Invalid configuration")

variable {Handle : Type} {m : Type → Type} [Monad m] [Volume Handle m]

/-- Reads a settings file. -/
def loadFile (path : Path) : m (Except SettingsError Settings) := do
  match ← Volume.read path with
  | .error fault => return .error (.io fault)
  | .ok contents => return Settings.ofFile path contents

/-- The settings file that applies, if any. -/
def configPath (overrides : Overrides) : m (Option Path) := do
  match overrides.config with
  | some path => return some path
  | none => return if ← Volume.isFile defaultConfig then some defaultConfig else none

/-- The settings of a command. -/
def resolve (overrides : Overrides) : m (Except Failure Settings) := do
  match ← configPath overrides with
  | none => return overrides.finish {}
  | some path =>
      match ← loadFile path with
      | .error error =>
          return .error ((settingsFailure error).within ("Failed to load config: " ++ path.text))
      | .ok base => return overrides.finish base

end ToStringGen.Command
