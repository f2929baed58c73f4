import ToStringGen.Command.Arguments
import ToStringGen.Command.Resolve
import ToStringGen.Filer.Directory
import ToStringGen.Filer.Memory
import ToStringGen.Manifest
import ToStringGen.Processing

/-!
# The commands' work: generating

The declarations of a manifest are processed and the results told. In a dry run
the sources are collected in memory and shown; otherwise they are written below
the output directory and listed. Nothing is written before settings and manifest
have been found valid.
-/

namespace ToStringGen.Command

open Log (Event)

/-- What a command leaves for the one who called it. -/
structure Transcript where
  /-- What was printed. -/
  output : String := ""
  /-- The level at which events are logged, once it is known. -/
  logLevel : Option Log.Level := none
  events : List Event := []
  failure : Option Failure := none
  deriving DecidableEq, Repr, Inhabited

/-- What processing a manifest leaves. -/
structure Execution where
  report : RunReport
  events : List Event
  /-- What is printed about it. -/
  output : String
  deriving DecidableEq, Repr, Inhabited

/-- The last line about a run. -/
def summaryLine (report : RunReport) : String :=
  "Generated: " ++ toString report.generated ++ ", skipped: " ++ toString report.skipped ++
    ", failed: " ++ toString report.failed ++ "\n"

/-- A source as a dry run shows it. -/
def shownSource (memory : Memory) (typeName : String) : String :=
  "// " ++ (Java.QualifiedName.sourcePath typeName).text ++ "\n" ++
    (memory.get? typeName).getD "" ++ "\n"

/-- Processes a manifest in memory and shows the sources in the order of their names. -/
def rehearse (settings : Settings) (manifest : Manifest) : Execution :=
  let ((report, events, _), memory) :=
    ((Processor.ofSettings settings).runToCompletion Memory.filer manifest.pool).run {}
  { report, events,
    output := String.join (memory.names.map (shownSource memory)) ++ summaryLine report }

/-- The line about a source that was written. -/
def writtenLine (root : Path) (typeName : String) : String :=
  "✓ " ++ (root.join (Java.QualifiedName.sourcePath typeName)).text ++ "\n"

variable {Handle : Type} {m : Type → Type} [Monad m] [Volume Handle m]
  [MonadStateOf (Directory Handle) m]

/-- Processes a manifest below the output directory and lists the sources written. -/
def perform (settings : Settings) (manifest : Manifest) : m Execution := do
  set ({ root := settings.outputDir } : Directory Handle)
  let (report, events, _) ←
    (Processor.ofSettings settings).runToCompletion Directory.filer manifest.pool
  return { report, events,
           output := String.join (report.artifacts.map (writtenLine settings.outputDir)) ++
             summaryLine report }

/-- Processes a manifest, in memory or below the output directory. -/
def execute (settings : Settings) (manifest : Manifest) (dryRun : Bool) : m Execution :=
  if dryRun then return rehearse settings manifest else perform settings manifest

/-- The failure that a manifest error is. -/
def manifestFailure (error : ManifestError) : Failure :=
  match error with
  | .io _ fault => { message := error.message, causes := [fault.message] }
  | .parse => { message := error.message, causes := [notAManifest] }
  | _ => { message := error.message }

/-- Reads a manifest. -/
def loadManifest (path : Path) : m (Except ManifestError Manifest) := do
  match ← Volume.readText path with
  | .error fault => return .error (.io path fault)
  | .ok text => return Manifest.ofToml text

/-- What is left when some classes could not be written. -/
def failureOf (errors : Nat) : Option Failure :=
  if errors = 0 then none
  else some { message := toString errors ++ " error(s) reported during generation" }

/-- The command `generate`. -/
def generate (options : GenerateOptions) : m Transcript := do
  let overrides : Overrides :=
    { config := options.config, output := options.output, marker := options.marker,
      logLevel := options.logLevel }
  match ← resolve overrides with
  | .error failure => return { failure := some failure }
  | .ok settings =>
      match Log.Level.parse settings.logLevel with
      | .error message => return { failure := some { message } }
      | .ok level =>
          let started : Transcript :=
            { logLevel := some level, events := [.settingsResolved settings] }
          match ← loadManifest options.manifest with
          | .error error => return { started with failure := some (manifestFailure error) }
          | .ok manifest =>
              match manifest.validate with
              | .error error =>
                  return { started with
                    failure := some ((manifestFailure error).within
                      ("Invalid manifest: " ++ options.manifest.text)) }
              | .ok () =>
                  let execution ← execute settings manifest options.dryRun
                  let tally := ({} : Tally).reportAll (diagnosticsOf execution.events)
                  return { started with
                    output := execution.output
                    events := started.events ++
                      .manifestLoaded manifest.types.length :: execution.events
                    failure := failureOf tally.errors }

end ToStringGen.Command
