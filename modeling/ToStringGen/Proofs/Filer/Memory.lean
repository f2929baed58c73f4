import ToStringGen.Filer.Memory
import ToStringGen.Proofs.Filer.Session
import ToStringGen.Proofs.StateM

/-!
# What files in memory hold

Nothing that is asked of the destination in memory fails, so each of its
operations is a plain change to the map from names to contents. However the bytes of
a file are cut into pieces, the file holds the pieces joined.
-/

namespace ToStringGen.Memory

open Text (Bytes)

/-- Files in memory, and one that is open and holds what was written to it so far. -/
def holding (files : Std.ExtTreeMap String Bytes) (typeName : String) (bytes : Bytes) : Memory :=
  { files := files.insert typeName bytes, current := some typeName }

/-- Bytes go to the end of the open file. -/
theorem append_holding (files : Std.ExtTreeMap String Bytes) (typeName : String)
    (held bytes : Bytes) :
    append bytes (holding files typeName held) = holding files typeName (held ++ bytes) := by
  simp only [append, holding, Std.ExtTreeMap.getD_insert_self]
  congr 1
  apply Std.ExtTreeMap.ext_getElem?
  intro name
  simp only [Std.ExtTreeMap.getElem?_insert]
  split <;> rfl

/-- Opening a file leaves it empty. -/
@[simp] theorem run_create (typeName : String) (memory : Memory) :
    (filer.create typeName).run memory =
      (.ok { name := typeName }, holding memory.files typeName []) := rfl

/-- Nothing is held back. -/
@[simp] theorem run_flush (memory : Memory) : filer.flush.run memory = (.ok (), memory) := rfl

/-- Closing changes no file. -/
@[simp] theorem run_close (memory : Memory) :
    filer.close.run memory = ((), { memory with current := none }) := rfl

/-- Discarding takes the file out of the map. -/
@[simp] theorem run_discard (typeName : String) (memory : Memory) :
    (filer.discard typeName).run memory =
      ([], { memory with files := memory.files.erase typeName }) := rfl

/-- All bytes are taken at the first attempt. -/
@[simp] theorem run_writeAll (files : Std.ExtTreeMap String Bytes) (typeName : String)
    (held bytes : Bytes) :
    (filer.writeAll bytes).run (holding files typeName held) =
      (.ok (), holding files typeName (held ++ bytes)) := by
  cases bytes with
  | nil => simp [Filer.writeAll]
  | cons b rest =>
    rw [Filer.writeAll, ← append_holding]
    simp [filer, Attempt.settle, Filer.writeAll]
    rfl

/-- A body goes to the end of the open file as a whole. -/
@[simp] theorem run_writeBody (files : Std.ExtTreeMap String Bytes) (typeName : String)
    (held : Bytes) (body : String) :
    (filer.writeBody body).run (holding files typeName held) =
      (.ok (), holding files typeName (held ++ Text.Utf8.encode body)) := by
  simp [Filer.writeBody]

/-- Writing an artifact succeeds and puts its body under its name. -/
theorem run_writeArtifact (memory : Memory) (artifact : Artifact) :
    (filer.writeArtifact artifact).run memory =
      ((.ok (), []),
        { files := memory.files.insert artifact.qualifiedName (Text.Utf8.encode artifact.body),
          current := none }) := by
  simp [Filer.writeArtifact]
  rfl

/-- Everything done with the open file succeeds, and the bytes go to its end. -/
@[simp] theorem run_strokes (files : Std.ExtTreeMap String Bytes) (typeName : String)
    (held : Bytes) (strokes : List Stroke) :
    (filer.strokes strokes).run (holding files typeName held) =
      (List.replicate strokes.length (.ok ()),
        holding files typeName (held ++ strokes.flatMap Stroke.bytes)) := by
  induction strokes generalizing held with
  | nil => simp [Filer.strokes]
  | cons stroke strokes ih =>
    cases stroke <;>
      simp [Filer.strokes, Filer.stroke, Stroke.bytes, ih, List.replicate_succ]

/-- A session succeeds and leaves the file with the bytes that were written, whether they were
passed on or not. -/
theorem run_session (memory : Memory) (typeName : String) (strokes : List Stroke) :
    (filer.session typeName strokes).run memory =
      (.ok ({ name := typeName }, List.replicate strokes.length (.ok ())),
        { files := memory.files.insert typeName (strokes.flatMap Stroke.bytes),
          current := none }) := by
  simp [Filer.session]
  rfl

end ToStringGen.Memory
