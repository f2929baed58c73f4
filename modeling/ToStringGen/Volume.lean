import ToStringGen.Fault
import ToStringGen.Path
import ToStringGen.Text.Utf8

/-!
# Volumes

The few operations on files that the generator needs, wherever the files are: on
the machine or in a model of it. Directories are made on demand, from the
outermost missing one inwards.
-/

namespace ToStringGen

open Text (Bytes)

/-- Files and directories that actions in `m` work on. An open file is a `Handle`. -/
class Volume (Handle : outParam Type) (m : Type → Type) where
  /-- Whether a path leads to a regular file; links are followed. -/
  isFile : Path → m Bool
  /-- Whether a path leads to a directory; links are followed. -/
  isDirectory : Path → m Bool
  /-- The contents of a file. -/
  read : Path → m (Except Fault Bytes)
  /-- Makes one directory. -/
  makeDirectory : Path → m (Except Fault Unit)
  /-- Opens a file for writing, made or emptied. -/
  create : Path → m (Except Fault Handle)
  /-- Writes bytes at the end of an open file. -/
  append : Handle → Bytes → m (Except Fault Unit)
  /-- Removes a file or a link. -/
  remove : Path → m (Except Fault Unit)

namespace Volume

variable {Handle : Type} {m : Type → Type} [Monad m] [Volume Handle m]

/-- Makes a directory whose path has the given components, innermost first, together with the
directories above it that are missing. A directory that is there already is as good. -/
def makeTree : List Path.Component → m (Except Fault Unit)
  | [] => return .ok ()
  | component :: above => do
      let path := Path.ofComponents (component :: above).reverse
      match ← makeDirectory path with
      | .ok () => return .ok ()
      | .error fault =>
          if fault = .system .notFound then
            match ← makeTree above with
            | .error fault => return .error fault
            | .ok () =>
                match ← makeDirectory path with
                | .ok () => return .ok ()
                | .error fault => return if ← isDirectory path then .ok () else .error fault
          else return if ← isDirectory path then .ok () else .error fault

/-- Makes the directories that a file is to lie in. -/
def makeParents (path : Path) : m (Except Fault Unit) :=
  match path.parent? with
  | none => return .ok ()
  | some parent => makeTree parent.components.reverse

/-- Reads a file as text. -/
def readText (path : Path) : m (Except Fault String) := do
  match ← read path with
  | .error fault => return .error fault
  | .ok contents =>
      match Text.Utf8.decode contents with
      | .error _ => return .error .notText
      | .ok text => return .ok text

end Volume

end ToStringGen
