import ToStringGen.Artifact
import ToStringGen.Log.Event
import ToStringGen.Text.Utf8

/-!
# Filing artifacts

A filer opens one file at a time and writes to it in pieces, any of which may be
accepted in part, be interrupted or fail. Writing an artifact is all or nothing:
either the file holds the whole body, or what was left of it is discarded.
-/

namespace ToStringGen

open Text (Bytes)
open Log (FilingEvent)

/-- The outcome of one attempt to write bytes. -/
inductive Attempt where
  /-- A number of the bytes was taken, counted from the first. -/
  | accepted (count : Nat)
  | failed (fault : Fault)
  /-- Nothing was taken and the same bytes were offered again. -/
  | interrupted (again : Attempt)
  deriving DecidableEq, Repr, Inhabited

/-- The outcome of an attempt after all interruptions. -/
def Attempt.settle : Attempt → Except Fault Nat
  | accepted count => .ok count
  | failed fault => .error fault
  | interrupted again => again.settle

/-- A file that was opened for writing. -/
structure OpenFile where
  /-- The name under which messages mention the file. -/
  name : String
  /-- What opening it has to tell. -/
  events : List FilingEvent := []
  deriving DecidableEq, Repr, Inhabited

/-- A destination for source files, with actions in `m`. -/
structure Filer (m : Type → Type) where
  /-- Opens the file of a type, empty. -/
  create : String → m (Except GenerationError OpenFile)
  /-- Offers bytes to the open file. -/
  write : Bytes → m Attempt
  /-- Passes on what the open file holds back. -/
  flush : m (Except Fault Unit)
  /-- Closes the open file. -/
  close : m Unit
  /-- Removes what a failed write has left of the file of a type. -/
  discard : String → m (List FilingEvent)

namespace Filer

variable {m : Type → Type} [Monad m]

/-- Offers bytes until all of them are taken, or until an attempt fails or takes none. -/
def writeAll (filer : Filer m) : Bytes → m (Except Fault Unit)
  | [] => return .ok ()
  | b :: rest => do
      match (← filer.write (b :: rest)).settle with
      | .error fault => return .error fault
      | .ok 0 => return .error .nothingAccepted
      | .ok (count + 1) => filer.writeAll (rest.drop count)
termination_by bytes => bytes.length
decreasing_by simp only [List.length_cons, List.length_drop]; omega

/-- Writes a whole body and passes it on. -/
def writeBody (filer : Filer m) (body : String) : m (Except Fault Unit) := do
  match ← filer.writeAll (Text.Utf8.encode body) with
  | .error fault => return .error fault
  | .ok () => filer.flush

/-- Writes an artifact to a file of its own. If the body cannot be written whole, the file is
closed and discarded. -/
def writeArtifact (filer : Filer m) (artifact : Artifact) :
    m (Except GenerationError Unit × List FilingEvent) := do
  match ← filer.create artifact.qualifiedName with
  | .error failure => return (.error failure, [])
  | .ok file =>
      match ← filer.writeBody artifact.body with
      | .ok () =>
          filer.close
          return (.ok (), file.events)
      | .error cause =>
          filer.close
          let events ← filer.discard artifact.qualifiedName
          return (.error (.write file.name cause), file.events ++ events)

/-- Writes chunks one after the other; a failure does not keep the later ones from being
tried. -/
def writeChunks (filer : Filer m) : List Bytes → m (List (Except Fault Unit))
  | [] => return []
  | chunk :: chunks => do
      let result ← filer.writeAll chunk
      let results ← filer.writeChunks chunks
      return result :: results

/-- Opens a file, writes chunks to it, passes them on if asked, and closes it. The results are
those of the chunks and, if asked for, of passing them on. -/
def fill (filer : Filer m) (typeName : String) (chunks : List Bytes) (flush : Bool) :
    m (Except GenerationError (OpenFile × List (Except Fault Unit))) := do
  match ← filer.create typeName with
  | .error failure => return .error failure
  | .ok file =>
      let results ← filer.writeChunks chunks
      let last ← if flush then (fun result => [result]) <$> filer.flush else pure []
      filer.close
      return .ok (file, results ++ last)

end Filer

end ToStringGen
