import ToStringGen.Command
import ToStringGen.Proofs.StateM
import ToStringGen.Workspace

/-!
# Looking at settings and manifests

The commands look for a settings file, and read it and the manifest. On a volume on which
looking changes nothing, what they get is what is to be seen in the state from which they
start, and the state stays as it is.
-/

namespace ToStringGen

open Command
open Text (Bytes)

variable {Handle σ α β : Type}

/-- A volume on which looking at a file changes nothing. Whatever is seen there, faults included,
depends on the state. -/
class Volume.Still (σ : Type) {Handle : outParam Type} [Volume Handle (StateM σ)] : Prop where
  isFile_leaves : ∀ (path : Path) (s : σ), ((Volume.isFile path : StateM σ Bool).run s).2 = s
  read_leaves : ∀ (path : Path) (s : σ),
    ((Volume.read path : StateM σ (Except Fault Bytes)).run s).2 = s

/-- Looking at a file of a workspace changes nothing. -/
instance : Volume.Still Workspace where
  isFile_leaves _ _ := rfl
  read_leaves _ _ := rfl

/-- An action that leaves the state as it is. -/
def Leaves (action : StateM σ α) : Prop :=
  ∀ s, (action.run s).2 = s

namespace Leaves

/-- Returning a result leaves the state as it is. -/
theorem pure (result : α) : Leaves (Pure.pure result : StateM σ α) :=
  fun _ => rfl

/-- Two actions that leave the state as it is do so one after the other. -/
theorem bind {first : StateM σ α} {next : α → StateM σ β} (h : Leaves first)
    (hnext : ∀ result, Leaves (next result)) : Leaves (first >>= next) := by
  intro s
  rw [run_bind, hnext, h]

/-- Such an action is known by its result. -/
theorem run_eq {action : StateM σ α} (h : Leaves action) (s : σ) :
    action.run s = ((action.run s).1, s) :=
  Prod.ext rfl (h s)

end Leaves

namespace Command

variable [Volume Handle (StateM σ)]

/-- Whether a path leads to a file in a state. -/
def fileAt (s : σ) (path : Path) : Bool :=
  ((Volume.isFile path : StateM σ Bool).run s).1

/-- What is read at a path in a state. -/
def contentsAt (s : σ) (path : Path) : Except Fault Bytes :=
  ((Volume.read path : StateM σ (Except Fault Bytes)).run s).1

/-- The settings file that applies in a state: the one that is named, or else the one that is in
the working directory. -/
def settingsFile? (s : σ) (config : Option Path) : Option Path :=
  match config with
  | some path => some path
  | none => if fileAt s defaultConfig then some defaultConfig else none

variable [Volume.Still σ] {s : σ}

/-- Looking for a file gives what is seen in the state. -/
theorem run_isFile (s : σ) (path : Path) :
    (Volume.isFile path : StateM σ Bool).run s = (fileAt s path, s) :=
  Leaves.run_eq (Volume.Still.isFile_leaves path) s

/-- Reading a file gives what is seen in the state. -/
theorem run_read (s : σ) (path : Path) :
    (Volume.read path : StateM σ (Except Fault Bytes)).run s = (contentsAt s path, s) :=
  Leaves.run_eq (Volume.Still.read_leaves path) s

/-- The settings file is looked for and nothing else is done. -/
theorem run_configPath (overrides : Overrides) (s : σ) :
    (configPath overrides : StateM σ (Option Path)).run s =
      (settingsFile? s overrides.config, s) := by
  unfold configPath settingsFile?
  cases overrides.config with
  | some path => rfl
  | none =>
    simp only [run_bind, run_isFile, run_pure]

/-- Without a settings file the options are put in place of the default settings. -/
theorem run_resolve_of_none {overrides : Overrides}
    (h : settingsFile? s overrides.config = none) :
    (resolve overrides : StateM σ (Except Failure Settings)).run s = (overrides.finish {}, s) := by
  rw [resolve, run_bind, run_configPath, h]
  rfl

/-- With a settings file the options are put in place of what it holds. -/
theorem run_resolve_of_some {overrides : Overrides} {path : Path}
    (h : settingsFile? s overrides.config = some path) :
    (resolve overrides : StateM σ (Except Failure Settings)).run s =
      (match contentsAt s path with
        | .error fault => .error ((settingsFailure (.io fault)).within
            ("Failed to load config: " ++ path.text))
        | .ok contents =>
          match Settings.ofFile path contents with
          | .error error => .error ((settingsFailure error).within
              ("Failed to load config: " ++ path.text))
          | .ok base => overrides.finish base, s) := by
  rw [resolve, run_bind, run_configPath, h]
  simp only [run_bind, loadFile, run_read]
  cases contentsAt s path with
  | error fault => rfl
  | ok contents => cases hfile : Settings.ofFile path contents <;> simp [hfile]

/-- A manifest is loaded from what is read at its path. -/
theorem run_loadManifest (s : σ) (path : Path) :
    (loadManifest path : StateM σ (Except ManifestError Manifest)).run s =
      (match contentsAt s path with
        | .error fault => .error (.io path fault)
        | .ok contents =>
          match Text.Utf8.decode contents with
          | .error _ => .error (.io path .notText)
          | .ok text => Manifest.ofToml text, s) := by
  rw [loadManifest, run_bind, Volume.readText, run_bind, run_read]
  cases contentsAt s path with
  | error fault => rfl
  | ok contents => cases htext : Text.Utf8.decode contents <;> simp [htext]

/-- Resolving settings changes nothing. -/
theorem resolve_leaves (overrides : Overrides) :
    Leaves (resolve overrides : StateM σ (Except Failure Settings)) := by
  intro s
  cases hpath : settingsFile? s overrides.config with
  | none => rw [run_resolve_of_none hpath]
  | some path => rw [run_resolve_of_some hpath]

/-- Loading a manifest changes nothing. -/
theorem loadManifest_leaves (path : Path) :
    Leaves (loadManifest path : StateM σ (Except ManifestError Manifest)) := by
  intro s
  rw [run_loadManifest]

/-- Checking changes nothing. -/
theorem check_leaves (options : CheckOptions) :
    Leaves (check options : StateM σ Transcript) := by
  refine (resolve_leaves _).bind fun result => ?_
  split
  · exact .pure _
  · refine (loadManifest_leaves _).bind fun result => ?_
    split
    · exact .pure _
    · split <;> exact .pure _

end Command

end ToStringGen
