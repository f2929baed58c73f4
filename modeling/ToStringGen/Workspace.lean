import ToStringGen.Disk
import ToStringGen.Filer.Directory

/-!
# Workspaces

The state on which the commands work in the model: a disk and the output
directory that is being filled on it.
-/

namespace ToStringGen

/-- A disk and the output directory that is being filled on it. -/
structure Workspace where
  directory : Directory Location
  disk : Disk

namespace Workspace

instance : MonadStateOf (Directory Location) (StateM Workspace) where
  get := fun workspace => (workspace.directory, workspace)
  set directory := fun workspace => ((), { workspace with directory })
  modifyGet change := fun workspace =>
    let (value, directory) := change workspace.directory
    (value, { workspace with directory })

/-- Changes the disk. -/
def onDisk {α : Type} (change : Disk → α × Disk) : StateM Workspace α :=
  fun workspace =>
    let (value, disk) := change workspace.disk
    (value, { workspace with disk })

instance : Volume Location (StateM Workspace) where
  isFile path := fun workspace => (workspace.disk.isFile path, workspace)
  isDirectory path := fun workspace => (workspace.disk.isDirectory path, workspace)
  read path := fun workspace => (workspace.disk.read path, workspace)
  makeDirectory path := onDisk (·.makeDirectory path)
  create path := onDisk (·.create path)
  append location bytes := onDisk (·.append location bytes)
  remove path := onDisk (·.remove path)

end Workspace

end ToStringGen
