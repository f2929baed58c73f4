import ToStringGen.Fault
import ToStringGen.Text.Utf8

/-!
# Outlets for text

A text is written to an outlet piece by piece; an outlet may run out of room, and
then holds the part of the text that it had room for.
-/

namespace ToStringGen

/-- An outlet with a limited number of bytes of room, and the fault that lack of room causes. -/
structure Outlet where
  room : Nat
  fault : Fault
  deriving DecidableEq, Repr

/-- What an outlet takes of a text, and why it did not take all of it. Without a limit it takes
everything. -/
def Outlet.accept (outlet : Option Outlet) (text : String) : Text.Bytes × Except Fault Unit :=
  let bytes := Text.Utf8.encode text
  match outlet with
  | none => (bytes, .ok ())
  | some outlet =>
      if bytes.length ≤ outlet.room then (bytes, .ok ())
      else (bytes.take outlet.room, .error outlet.fault)

end ToStringGen
