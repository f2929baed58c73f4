import ToStringGen.Filer

/-!
# Sessions with an open file

Between opening and closing a file, bytes are written to it and passed on in any
order. Filling a file with chunks is such a session.
-/

namespace ToStringGen

open Text (Bytes)

/-- One thing that is done with an open file. -/
inductive Stroke where
  | write (bytes : Bytes)
  | flush
  deriving DecidableEq, Repr

/-- The bytes that come to the file. -/
def Stroke.bytes : Stroke → Bytes
  | write bytes => bytes
  | flush => []

namespace Filer

variable {m : Type → Type} [Monad m]

/-- Does one thing with the open file. -/
def stroke (filer : Filer m) : Stroke → m (Except Fault Unit)
  | .write bytes => filer.writeAll bytes
  | .flush => filer.flush

/-- Does one thing after the other, whether they succeed or not. -/
def strokes (filer : Filer m) : List Stroke → m (List (Except Fault Unit))
  | [] => return []
  | stroke :: rest => do
      let result ← filer.stroke stroke
      let results ← filer.strokes rest
      return result :: results

/-- Opens a file, does some things with it and closes it. -/
def session (filer : Filer m) (typeName : String) (strokes : List Stroke) :
    m (Except GenerationError (OpenFile × List (Except Fault Unit))) := do
  match ← filer.create typeName with
  | .error failure => return .error failure
  | .ok file =>
      let results ← filer.strokes strokes
      filer.close
      return .ok (file, results)

/-- One chunk after the other is one stroke after the other. -/
theorem strokes_write [LawfulMonad m] (filer : Filer m) (chunks : List Bytes)
    (rest : List Stroke) :
    filer.strokes (chunks.map .write ++ rest) =
      filer.writeChunks chunks >>= fun results => (results ++ ·) <$> filer.strokes rest := by
  induction chunks with
  | nil => simp [writeChunks]
  | cons chunk chunks ih => simp [strokes, stroke, writeChunks, ih]

/-- Filling a file with chunks is a session that writes them and passes them on if asked. -/
theorem fill_eq_session [LawfulMonad m] (filer : Filer m) (typeName : String)
    (chunks : List Bytes) (flush : Bool) :
    filer.fill typeName chunks flush =
      filer.session typeName (chunks.map .write ++ if flush then [.flush] else []) := by
  unfold fill session
  refine bind_congr fun result => ?_
  cases result with
  | error failure => rfl
  | ok file =>
    simp only [strokes_write]
    cases flush <;> simp [strokes, stroke]

end Filer

end ToStringGen
