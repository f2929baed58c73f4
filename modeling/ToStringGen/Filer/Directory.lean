import ToStringGen.Filer
import ToStringGen.Volume

/-!
# Files below a directory

The source of a type is written to the path that its name spells, below an
output directory. Small writes are held back until there are enough of them; the
list of written files leaves out those that were discarded.
-/

namespace ToStringGen

open Text (Bytes)

/-- A file that is open for writing, and the bytes held back from it. -/
structure Output (Handle : Type) where
  handle : Handle
  held : Bytes := []
  deriving Inhabited

/-- An output directory. -/
structure Directory (Handle : Type) where
  root : Path
  /-- The files created and not discarded, in the order of creation. -/
  written : List Path := []
  output : Option (Output Handle) := none
  deriving Inhabited

namespace Directory

/-- The number of bytes that can be held back. -/
def capacity : Nat := 8192

variable {Handle : Type}

/-- The path of the source of a type. -/
def pathFor (directory : Directory Handle) (typeName : String) : Path :=
  directory.root.join (Java.QualifiedName.sourcePath typeName)

/-- Lists a path as written, once. Paths with the same components are the same file. -/
def record (path : Path) (written : List Path) : List Path :=
  if written.any fun other => other.components == path.components then written
  else written ++ [path]

/-- Takes a path off the list of written files. -/
def forget (path : Path) (written : List Path) : List Path :=
  written.filter fun other => other.components != path.components

variable {m : Type → Type} [Monad m] [Volume Handle m] [MonadStateOf (Directory Handle) m]

/-- Replaces the open file. -/
def setOutput (output : Option (Output Handle)) : m Unit :=
  modifyThe (Directory Handle) fun directory => { directory with output }

/-- Makes the directories above a file and the file itself. -/
def openFile (path : Path) : m (Except Fault Handle) := do
  match ← Volume.makeParents path with
  | .error fault => return .error fault
  | .ok () => Volume.create path

/-- Writes out what is held back; when that fails, it stays held back. -/
def flushHeld : m (Except Fault Unit) := do
  match (← getThe (Directory Handle)).output with
  | none => return .ok ()
  | some output =>
      if output.held.isEmpty then return .ok ()
      else
        match ← Volume.append output.handle output.held with
        | .error fault => return .error fault
        | .ok () =>
            setOutput (some { output with held := [] })
            return .ok ()

/-- Writes bytes that do not fit beside what is held back. -/
def writeLarge (bytes : Bytes) : m Attempt := do
  match (← getThe (Directory Handle)).output with
  | none => return .failed (.other "no file is open")
  | some output =>
      if bytes.length < capacity then
        setOutput (some { output with held := output.held ++ bytes })
        return .accepted bytes.length
      else
        match ← Volume.append output.handle bytes with
        | .error fault => return .failed fault
        | .ok () => return .accepted bytes.length

/-- Takes bytes: they are held back while there is room, and a piece as large as the room goes
straight to the file. -/
def offer (bytes : Bytes) : m Attempt := do
  match (← getThe (Directory Handle)).output with
  | none => return .failed (.other "no file is open")
  | some output =>
      let room := capacity - output.held.length
      if bytes.length < room then
        setOutput (some { output with held := output.held ++ bytes })
        return .accepted bytes.length
      else if room < bytes.length then
        match ← flushHeld with
        | .error fault => return .failed fault
        | .ok () => writeLarge bytes
      else writeLarge bytes

/-- The destination. -/
def filer : Filer m where
  create typeName := do
    let path := (← getThe (Directory Handle)).pathFor typeName
    match ← openFile path with
    | .error fault => return .error (.create typeName fault)
    | .ok handle =>
        modifyThe (Directory Handle) fun directory =>
          { directory with
            written := record path directory.written
            output := some { handle } }
        return .ok { name := path.text, events := [.created path] }
  write := offer
  flush := flushHeld
  close := do
    let _ ← flushHeld
    setOutput (none : Option (Output Handle))
  discard typeName := do
    let path := (← getThe (Directory Handle)).pathFor typeName
    modifyThe (Directory Handle) fun directory =>
      { directory with written := forget path directory.written }
    match ← Volume.remove path with
    | .ok () => return [.removed path]
    | .error (.system .notFound) => return []
    | .error fault => return [.leftBehind path fault]

end Directory

end ToStringGen
