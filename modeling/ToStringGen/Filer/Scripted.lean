import Std.Data.ExtTreeMap
import ToStringGen.Filer

/-!
# Files that fail on purpose

A destination that refuses names and breaks writes as a script tells it, to
rehearse what happens when files cannot be written.
-/

namespace ToStringGen

open Text (Bytes)

/-- What one attempt to write does. -/
inductive ScriptedWrite where
  /-- Takes at most a number of bytes. -/
  | accept (most : Nat)
  | interrupt
  | fail (reason : String)
  deriving DecidableEq, Repr, Inhabited

/-- How the file of a type behaves; attempts beyond the script take everything. -/
structure WriteScript where
  attempts : List ScriptedWrite := []
  /-- Why passing on fails, if it does. -/
  flushFault : Option String := none
  deriving DecidableEq, Repr, Inhabited

/-- The script of a destination. -/
structure Script where
  /-- The types whose files cannot be created, with the reason. -/
  refused : List (String × String) := []
  /-- The types whose files do not behave. -/
  writes : List (String × WriteScript) := []
  /-- Whether discarding does anything. -/
  discards : Bool := true
  deriving DecidableEq, Repr, Inhabited

/-- A destination that follows a script. -/
structure Scripted where
  script : Script := {}
  files : Std.ExtTreeMap String Bytes := ∅
  /-- The types whose files were discarded, in order. -/
  discarded : List String := []
  current : Option String := none
  /-- What remains of the script of the open file. -/
  pending : WriteScript := {}
  deriving Inhabited

namespace Scripted

/-- The next attempt to write a number of bytes, and the attempts after it. -/
def attempt (size : Nat) : List ScriptedWrite → Attempt × List ScriptedWrite
  | [] => (.accepted size, [])
  | .accept most :: rest => (.accepted (min most size), rest)
  | .fail reason :: rest => (.failed (.other reason), rest)
  | .interrupt :: rest =>
      let (again, rest) := attempt size rest
      (.interrupted again, rest)

/-- Opens an empty file with a fresh script. -/
def start (typeName : String) (scripted : Scripted) : Scripted :=
  { scripted with
    files := scripted.files.insert typeName []
    current := some typeName
    pending := (scripted.script.writes.lookup typeName).getD {} }

/-- Appends to the open file. -/
def append (bytes : Bytes) (scripted : Scripted) : Scripted :=
  match scripted.current with
  | none => scripted
  | some typeName =>
      { scripted with
        files := scripted.files.insert typeName (scripted.files.getD typeName [] ++ bytes) }

/-- Offers bytes to the open file. -/
def offer (bytes : Bytes) (scripted : Scripted) : Attempt × Scripted :=
  let (outcome, attempts) := attempt bytes.length scripted.pending.attempts
  let scripted := { scripted with pending := { scripted.pending with attempts } }
  match outcome.settle with
  | .ok count => (outcome, scripted.append (bytes.take count))
  | .error _ => (outcome, scripted)

/-- The destination. -/
def filer : Filer (StateM Scripted) where
  create typeName := do
    match (← get).script.refused.lookup typeName with
    | some reason => return .error (.create typeName (.other reason))
    | none =>
        modify (start typeName)
        return .ok { name := typeName ++ ".java" }
  write bytes := modifyGet (offer bytes)
  flush := do
    match (← get).pending.flushFault with
    | some reason => return .error (.other reason)
    | none => return .ok ()
  close := modify fun scripted => { scripted with current := none }
  discard typeName := do
    modify fun scripted =>
      if scripted.script.discards then
        { scripted with
          files := scripted.files.erase typeName
          discarded := scripted.discarded ++ [typeName] }
      else scripted
    return []

end Scripted

end ToStringGen
