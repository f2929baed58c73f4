import ToStringGen.Discovery
import ToStringGen.Filer

/-!
# Processing

A processor takes the annotated declarations that a source hands out, pass by
pass, and brings each of them to a final stage on its own: nothing that happens
to one declaration affects another. What happens on the way is returned as a
list of events, diagnostics included.
-/

namespace ToStringGen

open Log (Event)

/-- What became of a declaration. -/
structure Outcome where
  /-- The qualified name of the type. -/
  typeName : String
  stage : Stage
  /-- The qualified name of the generated class, if one was written. -/
  artifact : Option String
  deriving DecidableEq, Repr, Inhabited

namespace Outcome

/-- A declaration about which nothing is decided. -/
def discovered (typeName : String) : Outcome :=
  { typeName, stage := .discovered, artifact := none }

/-- Goes to another stage. -/
def advance (outcome : Outcome) (next : Stage) : Outcome × Event :=
  ({ outcome with stage := next }, .transition outcome.typeName outcome.stage next)

end Outcome

/-- The outcomes of one pass, in the order of discovery. -/
structure PassReport where
  outcomes : List Outcome := []
  deriving DecidableEq, Repr, Inhabited

namespace PassReport

/-- Whether the pass had nothing to do. -/
def isEmpty (report : PassReport) : Bool :=
  report.outcomes.isEmpty

/-- The number of outcomes at certain stages. -/
def count (report : PassReport) (holds : Stage → Bool) : Nat :=
  report.outcomes.countP fun outcome => holds outcome.stage

/-- The number of classes written. -/
def generated (report : PassReport) : Nat :=
  report.count (· == .generated)

/-- The number of types left alone. -/
def skipped (report : PassReport) : Nat :=
  report.count Stage.isSkipped

/-- The number of classes that could not be written. -/
def failed (report : PassReport) : Nat :=
  report.count (· == .ioFailure)

/-- The first outcome of a type. -/
def outcome? (report : PassReport) (typeName : String) : Option Outcome :=
  report.outcomes.find? fun outcome => outcome.typeName == typeName

end PassReport

/-- The reports of all passes of a run. -/
structure RunReport where
  passes : List PassReport := []
  /-- Whether every pass allowed had something to do, so that the limit ended the run. -/
  hitPassLimit : Bool := false
  /-- Whether the limit ended the run while the source had more to hand out. -/
  pending : Bool := false
  deriving DecidableEq, Repr, Inhabited

namespace RunReport

/-- All outcomes, in the order of processing. -/
def outcomes (report : RunReport) : List Outcome :=
  report.passes.flatMap PassReport.outcomes

/-- The number of outcomes at certain stages. -/
def count (report : RunReport) (holds : Stage → Bool) : Nat :=
  report.outcomes.countP fun outcome => holds outcome.stage

/-- The number of classes written. -/
def generated (report : RunReport) : Nat :=
  report.count (· == .generated)

/-- The number of types left alone. -/
def skipped (report : RunReport) : Nat :=
  report.count Stage.isSkipped

/-- The number of classes that could not be written. -/
def failed (report : RunReport) : Nat :=
  report.count (· == .ioFailure)

/-- The names of the classes written, in the order of processing. -/
def artifacts (report : RunReport) : List String :=
  report.outcomes.filterMap Outcome.artifact

end RunReport

/-- What processing needs to know. -/
structure Processor where
  marker : String := defaultMarker
  /-- The limit on passes. -/
  maxPasses : Nat := 16
  /-- At least one pass is allowed. -/
  one_le_maxPasses : 1 ≤ maxPasses := by decide
  deriving DecidableEq, Repr

namespace Processor

/-- Sets the limit on passes; a limit of none counts as one. -/
def withMaxPasses (processor : Processor) (maxPasses : Nat) : Processor where
  marker := processor.marker
  maxPasses := max maxPasses 1
  one_le_maxPasses := Nat.le_max_right ..

/-- The processor that settings ask for. -/
def ofSettings (settings : Settings) : Processor :=
  { marker := settings.marker : Processor }.withMaxPasses settings.maxPasses

variable {m : Type → Type} [Monad m]

/-- Brings a declaration to a final stage. -/
def processType (filer : Filer m) (declaration : TypeDeclaration) :
    m (Outcome × List Event) := do
  let found := Outcome.discovered declaration.qualifiedName
  if declaration.overridesToString then
    let (outcome, moved) := found.advance .overridden
    return (outcome, [moved, .reported (.alreadyOverridden declaration.qualifiedName)])
  else
    match declaration.request? with
    | none =>
        let (outcome, moved) := found.advance .noEligibleFields
        return (outcome, [moved])
    | some request =>
        let (chosen, moved) := found.advance .hasFields
        let artifact := request.synthesize
        let (result, filed) ← filer.writeArtifact artifact
        let events := moved :: filed.map Event.filing
        match result with
        | .ok () =>
            let (outcome, moved) := chosen.advance .generated
            return ({ outcome with artifact := some artifact.qualifiedName }, events ++ [moved])
        | .error failure =>
            let (outcome, moved) := chosen.advance .ioFailure
            return (outcome, events ++ [moved, .reported (.error failure.file failure.message)])

/-- Brings declarations to a final stage, one after the other. -/
def processAll (filer : Filer m) : List TypeDeclaration → m (List Outcome × List Event)
  | [] => return ([], [])
  | declaration :: declarations => do
      let (outcome, events) ← processType filer declaration
      let (outcomes, more) ← processAll filer declarations
      return (outcome :: outcomes, events ++ more)

/-- What a pass tells at its end, if it had something to do. -/
def closing (report : PassReport) : List Event :=
  if report.isEmpty then []
  else [.passComplete report.generated report.skipped report.failed]

variable {S : Type} [Discovery S]

/-- Processes what the source hands out as new. -/
def processPass (processor : Processor) (filer : Filer m) (source : S) :
    m (PassReport × List Event × S) := do
  let (declarations, source) := Discovery.find source processor.marker
  let (outcomes, events) ← processAll filer declarations
  let report : PassReport := { outcomes }
  let opening := Event.declarationsFound processor.marker declarations.length
  return (report, opening :: events ++ closing report, source)

/-- Runs passes until one has nothing to do or a number of them is used up; `pass` is the number
of the first. -/
def runPasses (processor : Processor) (filer : Filer m) (pass : Nat) :
    Nat → S → m (RunReport × List Event × S)
  | 0, source =>
      let pending := Discovery.hasPending source processor.marker
      let event :=
        if pending then Event.limitReachedPending processor.maxPasses
        else Event.limitReached processor.maxPasses
      return ({ hitPassLimit := true, pending }, [event], source)
  | left + 1, source => do
      let (report, events, source) ← processor.processPass filer source
      if report.isEmpty then return ({}, events, source)
      else
        let (run, more, source) ← runPasses processor filer (pass + 1) left source
        return ({ run with passes := report :: run.passes },
          events ++ .passFinished pass :: more, source)

/-- Runs passes until one has nothing to do or the limit is reached. -/
def runToCompletion (processor : Processor) (filer : Filer m) (source : S) :
    m (RunReport × List Event × S) :=
  runPasses processor filer 1 processor.maxPasses source

end Processor

/-- The diagnostics among events, in order. -/
def diagnosticsOf (events : List Event) : List Diagnostic :=
  events.filterMap Event.diagnostic?

end ToStringGen
