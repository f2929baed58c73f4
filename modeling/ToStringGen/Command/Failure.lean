/-!
# Failed commands

A command that fails says what it was doing and, line by line, what that goes
back to.
-/

namespace ToStringGen.Command

/-- Why a command failed, from the outermost reason to the innermost. -/
structure Failure where
  message : String
  causes : List String := []
  deriving DecidableEq, Repr, Inhabited

namespace Failure

/-- All reasons, the outermost first. -/
def chain (failure : Failure) : List String :=
  failure.message :: failure.causes

/-- Puts what was being done in front of the reasons. -/
def within (context : String) (failure : Failure) : Failure :=
  { message := context, causes := failure.chain }

/-- A text with its first line after `first` and the others after `next`. -/
def indented (first next text : String) : String :=
  first ++ String.ofList (text.toList.flatMap fun c =>
    if c = '\n' then '\n' :: next.toList else [c])

/-- A cause, numbered when there are several. -/
def causeText (several : Bool) (number : Nat) (cause : String) : String :=
  if several then
    let digits := toString number
    indented (String.ofList (List.replicate (5 - digits.length) ' ') ++ digits ++ ": ") "       " cause
  else indented "    " "    " cause

/-- The report about a failed command. -/
def report (failure : Failure) : String :=
  "Error: " ++ failure.message ++
    if failure.causes.isEmpty then ""
    else
      "\n\nCaused by:" ++
        String.join (failure.causes.mapIdx fun number cause =>
          "\n" ++ causeText (1 < failure.causes.length) number cause)

end Failure

end ToStringGen.Command
