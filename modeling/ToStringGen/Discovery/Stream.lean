import ToStringGen.Discovery

/-!
# Streams of declarations

A source that never knows whether it is exhausted: every call yields a batch of
copies of one declaration, told apart by a running number, until the calls are
used up.
-/

namespace ToStringGen

/-- A source of numbered copies of a declaration. -/
structure Stream where
  template : TypeDeclaration
  /-- The number of copies per call. -/
  batch : Nat := 1
  /-- The number of calls that yield something; without it, all of them do. -/
  calls : Option Nat := none
  /-- The number of copies made so far. -/
  made : Nat := 0
  deriving DecidableEq, Repr, Inhabited

namespace Stream

/-- The copy of a given number. -/
def copy (stream : Stream) (number : Nat) : TypeDeclaration :=
  { stream.template with qualifiedName := stream.template.qualifiedName ++ toString number }

/-- The next batch. -/
def find (stream : Stream) (_marker : String) : List TypeDeclaration × Stream :=
  if stream.calls = some 0 then ([], stream)
  else
    ((List.range stream.batch).map fun i => stream.copy (stream.made + i + 1),
     { stream with made := stream.made + stream.batch, calls := stream.calls.map (· - 1) })

instance : Discovery Stream where
  find := find

end Stream

end ToStringGen
