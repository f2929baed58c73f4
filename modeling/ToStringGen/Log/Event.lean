import ToStringGen.Diagnostic
import ToStringGen.Log.Level
import ToStringGen.Settings
import ToStringGen.Stage

/-!
# Log events

What a run has to tell about itself, as data. Each event has a level, a message
and named fields, and comes from one part of the program, by which a filter may
select it.
-/

namespace ToStringGen.Log

/-- What happens to the files of an output directory. -/
inductive FilingEvent where
  /-- A source file was created. -/
  | created (path : Path)
  /-- What a failed write had left was removed. -/
  | removed (path : Path)
  /-- What a failed write had left could not be removed. -/
  | leftBehind (path : Path) (fault : Fault)
  deriving DecidableEq, Repr

/-- What happens during a run. -/
inductive Event where
  /-- The settings of the run are known. -/
  | settingsResolved (settings : Settings)
  /-- The manifest was read and is valid. -/
  | manifestLoaded (types : Nat)
  /-- A pass begins with the declarations that carry the marker. -/
  | declarationsFound (marker : String) (count : Nat)
  /-- A declaration goes from one stage to another. -/
  | transition (typeName : String) (source target : Stage)
  | filing (event : FilingEvent)
  /-- A diagnostic was reported. -/
  | reported (diagnostic : Diagnostic)
  /-- A pass with declarations has ended. -/
  | passComplete (generated skipped failed : Nat)
  /-- The pass of a given number is over. -/
  | passFinished (pass : Nat)
  /-- The limit on passes was reached while declarations were waiting. -/
  | limitReachedPending (maxPasses : Nat)
  /-- The limit on passes was reached. -/
  | limitReached (maxPasses : Nat)
  deriving DecidableEq, Repr

namespace Event

/-- The level of an event. -/
def level : Event → Level
  | filing (.leftBehind ..) => .warn
  | reported diagnostic =>
      match diagnostic.severity with
      | .warning => .warn
      | .error => .error
  | passComplete .. => .info
  | limitReachedPending _ => .warn
  | _ => .debug

/-- The message of an event. -/
def message : Event → String
  | settingsResolved _ => "configuration resolved"
  | manifestLoaded _ => "manifest loaded"
  | declarationsFound .. => "annotated declarations found"
  | transition .. => "state transition"
  | filing (.created _) => "created source file"
  | filing (.removed _) => "removed partial source file"
  | filing (.leftBehind ..) => "could not remove partial source file"
  | reported diagnostic => diagnostic.message
  | passComplete .. => "processing pass complete"
  | passFinished _ => "pass finished"
  | limitReachedPending _ => "pass limit reached with declarations still pending"
  | limitReached _ => "pass limit reached"

/-- The fields of an event, in order. -/
def fields : Event → List (String × String)
  | settingsResolved settings => [("config", settings.describe)]
  | manifestLoaded types => [("types", toString types)]
  | declarationsFound marker count => [("marker", marker), ("count", toString count)]
  | transition typeName source target =>
      [("type_name", typeName), ("from", source.label), ("to", target.label)]
  | filing (.created path) => [("path", path.text)]
  | filing (.removed path) => [("path", path.text)]
  | filing (.leftBehind path fault) => [("path", path.text), ("error", fault.message)]
  | reported diagnostic => [("subject", diagnostic.subject)]
  | passComplete generated skipped failed =>
      [("generated", toString generated), ("skipped", toString skipped),
       ("failed", toString failed)]
  | passFinished pass => [("pass", toString pass)]
  | limitReachedPending maxPasses => [("max_passes", toString maxPasses)]
  | limitReached maxPasses => [("max_passes", toString maxPasses)]

/-- The part of the program that an event comes from, as filters name it. -/
def origin : Event → String
  | settingsResolved _ => "withtostring::generate"
  | manifestLoaded _ => "withtostring::generate"
  | filing _ => "withtostring_codegen::filer"
  | reported _ => "withtostring_logging::sink"
  | _ => "withtostring_codegen::processor"

/-- An event as one line. -/
def line (event : Event) : String :=
  event.level.label ++ " " ++ event.message ++
    String.join (event.fields.map fun (name, value) => " " ++ name ++ "=" ++ value)

/-- The diagnostic that an event reports. -/
def diagnostic? : Event → Option Diagnostic
  | reported diagnostic => some diagnostic
  | _ => none

/-- The step between stages that an event records, with the name of the type. -/
def step? : Event → Option (String × Stage × Stage)
  | transition typeName source target => some (typeName, source, target)
  | _ => none

end Event

end ToStringGen.Log
