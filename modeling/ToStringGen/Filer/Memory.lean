import Std.Data.ExtTreeMap
import ToStringGen.Filer

/-!
# Files in memory

The simplest destination keeps every file under the name of its type. Nothing
that it is asked to do can fail.
-/

namespace ToStringGen

open Text (Bytes)

/-- Files in memory, and the one that is open. -/
structure Memory where
  files : Std.ExtTreeMap String Bytes := ∅
  current : Option String := none
  deriving Inhabited

namespace Memory

/-- The file of a type, if there is one and it is text. -/
def get? (memory : Memory) (typeName : String) : Option String :=
  memory.files[typeName]?.bind Text.Utf8.decode?

/-- The names of all files, in ascending order. -/
def names (memory : Memory) : List String :=
  memory.files.keys

/-- Opens an empty file. -/
def create (typeName : String) (memory : Memory) : Memory :=
  { files := memory.files.insert typeName [], current := some typeName }

/-- Appends to the open file. -/
def append (bytes : Bytes) (memory : Memory) : Memory :=
  match memory.current with
  | none => memory
  | some typeName =>
      { memory with files := memory.files.insert typeName (memory.files.getD typeName [] ++ bytes) }

/-- Removes a file. -/
def remove (typeName : String) (memory : Memory) : Memory :=
  { memory with files := memory.files.erase typeName }

/-- The destination. -/
def filer : Filer (StateM Memory) where
  create typeName := do
    modify (create typeName)
    return .ok { name := typeName }
  write bytes := do
    modify (append bytes)
    return .accepted bytes.length
  flush := return .ok ()
  close := modify fun memory => { memory with current := none }
  discard typeName := do
    modify (remove typeName)
    return []

end Memory

end ToStringGen
