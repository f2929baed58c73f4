import ToStringGen.Command.Generate
import ToStringGen.Manifest.Preview

/-!
# The commands' work: checking

A manifest is read and validated, and what would be generated from it is
described. Nothing is written and nothing is logged.
-/

namespace ToStringGen.Command

variable {Handle : Type} {m : Type → Type} [Monad m] [Volume Handle m]

/-- What is printed before the manifest is read. -/
def checkingLine (path : Path) : String :=
  "Checking manifest: " ++ path.text ++ "\n"

/-- What is printed about a valid manifest. -/
def checkedText (manifest : Manifest) (marker : String) : String :=
  "✓ Types: " ++ toString manifest.types.length ++ "\n" ++
    "✓ Marker: " ++ marker ++ "\n" ++
    "\n" ++
    manifest.describe marker ++
    "\nManifest is valid!\n"

/-- The command `check`. -/
def check (options : CheckOptions) : m Transcript := do
  match ← resolve { config := options.config, marker := options.marker } with
  | .error failure => return { failure := some failure }
  | .ok settings =>
      let opening := checkingLine options.manifest
      match ← loadManifest options.manifest with
      | .error error => return { output := opening, failure := some (manifestFailure error) }
      | .ok manifest =>
          match manifest.validate with
          | .error error => return { output := opening, failure := some (manifestFailure error) }
          | .ok () => return { output := opening ++ checkedText manifest settings.marker }

end ToStringGen.Command
