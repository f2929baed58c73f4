import ToStringGen.Processing
import ToStringGen.Proofs.Processing.Pool

/-!
# What a run does

Over a pool only the first pass has something to do: a run brings the first
annotated declaration of each name to a final stage, and what is left to the passes
after it is to find nothing. The results are stated for any filer, in terms of the
one action in which the declarations differ, the writing of their artifacts.
-/

namespace ToStringGen

open Log (Event FilingEvent)

/-- The diagnostics of events that follow each other follow each other. -/
theorem diagnosticsOf_append (events more : List Event) :
    diagnosticsOf (events ++ more) = diagnosticsOf events ++ diagnosticsOf more :=
  List.filterMap_append

/-- What a filer tells of its files are no diagnostics. -/
theorem diagnosticsOf_filing (filed : List FilingEvent) :
    diagnosticsOf (filed.map Event.filing) = [] := by
  simp [diagnosticsOf, Event.diagnostic?, Function.comp_def]

namespace Outcome

/-- A declaration that was left alone because it shows itself. -/
def overridden (typeName : String) : Outcome :=
  { typeName, stage := .overridden, artifact := none }

/-- A declaration with nothing to show. -/
def withoutFields (typeName : String) : Outcome :=
  { typeName, stage := .noEligibleFields, artifact := none }

/-- What becomes of a request, by the result of writing its artifact. -/
def ofWriting (typeName artifact : String) : Except GenerationError Unit → Outcome
  | .ok () => { typeName, stage := .generated, artifact := some artifact }
  | .error _ => { typeName, stage := .ioFailure, artifact := none }

end Outcome

namespace TypeDeclaration

variable {declaration : TypeDeclaration}

/-- The request for a declaration names it and takes its eligible fields. -/
theorem eq_of_request?_eq_some {request : GenerationRequest}
    (h : declaration.request? = some request) :
    request.qualifiedName = declaration.qualifiedName ∧
      request.fields = declaration.eligibleFields := by
  rw [request?, GenerationRequest.of?] at h
  split at h
  · simp at h
  · rw [← Option.some.inj h]
    exact ⟨rfl, rfl⟩

/-- Only without eligible fields there is no request for a declaration. -/
theorem request?_eq_none_iff : declaration.request? = none ↔ declaration.eligibleFields = [] := by
  rw [request?, GenerationRequest.of?]
  split <;> simp_all

/-- The class that is generated for a declaration. -/
def classArtifact (declaration : TypeDeclaration) : Artifact where
  qualifiedName := Java.Subclass.nameOf declaration.qualifiedName
  body := Java.Subclass.render declaration.qualifiedName
    (declaration.eligibleFields.map FieldDeclaration.name)

/-- The artifact of the request for a declaration is its class. -/
theorem synthesize_of_request?_eq_some {request : GenerationRequest}
    (h : declaration.request? = some request) :
    request.synthesize = declaration.classArtifact := by
  obtain ⟨hname, hfields⟩ := eq_of_request?_eq_some h
  rw [GenerationRequest.synthesize, GenerationRequest.artifactName, GenerationRequest.fieldNames,
    hname, hfields, classArtifact]

end TypeDeclaration

namespace Processor

/-- The events around the writing of an artifact. -/
def writingEvents (typeName : String) (result : Except GenerationError Unit)
    (filed : List FilingEvent) : List Event :=
  .transition typeName .discovered .hasFields :: filed.map Event.filing ++
    match result with
    | .ok () => [.transition typeName .hasFields .generated]
    | .error failure =>
        [.transition typeName .hasFields .ioFailure,
          .reported (.error failure.file failure.message)]

variable {m : Type → Type} [Monad m]

/-- A declaration that overrides the method is reported and not filed. -/
theorem processType_of_overrides (filer : Filer m) {declaration : TypeDeclaration}
    (h : declaration.overridesToString = true) :
    processType filer declaration =
      pure (Outcome.overridden declaration.qualifiedName,
        [.transition declaration.qualifiedName .discovered .overridden,
          .reported (.alreadyOverridden declaration.qualifiedName)]) := by
  simp [processType, h, Outcome.discovered, Outcome.advance, Outcome.overridden]

/-- A declaration without eligible fields is not filed. -/
theorem processType_of_request?_eq_none (filer : Filer m) {declaration : TypeDeclaration}
    (h : declaration.overridesToString = false) (hrequest : declaration.request? = none) :
    processType filer declaration =
      pure (Outcome.withoutFields declaration.qualifiedName,
        [.transition declaration.qualifiedName .discovered .noEligibleFields]) := by
  simp [processType, h, hrequest, Outcome.discovered, Outcome.advance, Outcome.withoutFields]

/-- The artifact of a request is written, and the result decides the outcome. -/
theorem processType_of_request?_eq_some [LawfulMonad m] (filer : Filer m)
    {declaration : TypeDeclaration} {request : GenerationRequest}
    (h : declaration.overridesToString = false)
    (hrequest : declaration.request? = some request) :
    processType filer declaration =
      (fun (result, filed) =>
        (Outcome.ofWriting declaration.qualifiedName request.artifactName result,
          writingEvents declaration.qualifiedName result filed)) <$>
        filer.writeArtifact request.synthesize := by
  simp only [processType, h, hrequest, Outcome.discovered, Outcome.advance,
    GenerationRequest.synthesize, map_eq_pure_bind, Bool.false_eq_true, if_false]
  refine bind_congr fun (result, filed) => ?_
  rcases result with failure | ⟨⟩ <;> simp [Outcome.ofWriting, writingEvents]

/-- The class of a declaration with eligible fields is written, and the result decides the
outcome. -/
theorem processType_of_eligibleFields [LawfulMonad m] (filer : Filer m)
    {declaration : TypeDeclaration} (h : declaration.overridesToString = false)
    (hfields : declaration.eligibleFields ≠ []) :
    processType filer declaration =
      (fun (result, filed) =>
        (Outcome.ofWriting declaration.qualifiedName declaration.classArtifact.qualifiedName result,
          writingEvents declaration.qualifiedName result filed)) <$>
        filer.writeArtifact declaration.classArtifact := by
  cases hrequest : declaration.request? with
  | none => exact absurd (TypeDeclaration.request?_eq_none_iff.mp hrequest) hfields
  | some request =>
    have hartifact := TypeDeclaration.synthesize_of_request?_eq_some hrequest
    rw [processType_of_request?_eq_some filer h hrequest, ← hartifact]
    rfl

/-- Processing a declaration is one of three things: it is left alone because it shows itself, or
because it has nothing to show, or its class is written. -/
theorem processType_cases [LawfulMonad m] (filer : Filer m) (declaration : TypeDeclaration)
    {motive : m (Outcome × List Event) → Prop}
    (overridden : declaration.overridesToString = true →
      motive (pure (Outcome.overridden declaration.qualifiedName,
        [.transition declaration.qualifiedName .discovered .overridden,
          .reported (.alreadyOverridden declaration.qualifiedName)])))
    (withoutFields : declaration.overridesToString = false → declaration.eligibleFields = [] →
      motive (pure (Outcome.withoutFields declaration.qualifiedName,
        [.transition declaration.qualifiedName .discovered .noEligibleFields])))
    (written : declaration.overridesToString = false → declaration.eligibleFields ≠ [] →
      motive (do
        let (result, filed) ← filer.writeArtifact declaration.classArtifact
        return (Outcome.ofWriting declaration.qualifiedName
            declaration.classArtifact.qualifiedName result,
          writingEvents declaration.qualifiedName result filed))) :
    motive (processType filer declaration) := by
  by_cases hoverrides : declaration.overridesToString = true
  · rw [processType_of_overrides filer hoverrides]
    exact overridden hoverrides
  rw [Bool.not_eq_true] at hoverrides
  by_cases hfields : declaration.eligibleFields = []
  · have hrequest := TypeDeclaration.request?_eq_none_iff.mpr hfields
    rw [processType_of_request?_eq_none filer hoverrides hrequest]
    exact withoutFields hoverrides hfields
  · rw [processType_of_eligibleFields filer hoverrides hfields, map_eq_pure_bind]
    exact written hoverrides hfields

/-- The report of a run over a pool, from the outcomes of its only pass. -/
def reportOf (processor : Processor) (outcomes : List Outcome) : RunReport :=
  if outcomes.isEmpty then {}
  else { passes := [{ outcomes }], hitPassLimit := processor.maxPasses == 1 }

/-- The events of a run over a pool, from the number of declarations that its only pass finds
and the events of that pass. -/
def eventsOf (processor : Processor) (found : Nat) (outcomes : List Outcome)
    (events : List Event) : List Event :=
  .declarationsFound processor.marker found :: events ++
    if outcomes.isEmpty then []
    else
      closing { outcomes } ++ .passFinished 1 ::
        if processor.maxPasses = 1 then [.limitReached 1]
        else [.declarationsFound processor.marker 0]

/-- All outcomes of a run over a pool are those of its only pass. -/
@[simp] theorem outcomes_reportOf (processor : Processor) (outcomes : List Outcome) :
    (processor.reportOf outcomes).outcomes = outcomes := by
  cases outcomes <;> simp [reportOf, RunReport.outcomes]

/-- A run over a pool ends with nothing pending, whatever the limit. -/
theorem pending_reportOf (processor : Processor) (outcomes : List Outcome) :
    (processor.reportOf outcomes).pending = false := by
  unfold reportOf
  split <;> rfl

/-- A run over a pool processes what the pool hands out once, and nothing else. -/
theorem runToCompletion_eq [LawfulMonad m] (processor : Processor) (filer : Filer m)
    (pool : Pool) :
    processor.runToCompletion filer pool =
      (fun (outcomes, events) =>
        (processor.reportOf outcomes,
          processor.eventsOf (pool.find processor.marker).1.length outcomes events,
          (pool.find processor.marker).2)) <$>
        processAll filer (pool.find processor.marker).1 := by
  have hagain := Pool.find_find pool processor.marker
  have hpending := Pool.hasPending_find pool processor.marker
  obtain ⟨passes, hpasses⟩ : ∃ passes, processor.maxPasses = passes + 1 :=
    ⟨processor.maxPasses - 1, by have := processor.one_le_maxPasses; omega⟩
  simp only [runToCompletion, hpasses, runPasses, processPass, Discovery.find]
  rcases hfound : pool.find processor.marker with ⟨found, rest⟩
  rw [hfound] at hagain hpending
  cases found with
  | nil => simp [processAll, PassReport.isEmpty, reportOf, eventsOf, closing]
  | cons declaration found =>
    -- The first pass has an outcome to report; the limit decides whether there is a second one.
    cases passes with
    | zero =>
      simp [processAll, PassReport.isEmpty, runPasses, Discovery.hasPending, hpending, reportOf,
        eventsOf, hpasses]
    | succ passes =>
      simp [processAll, PassReport.isEmpty, runPasses, processPass, Discovery.find, hagain,
        reportOf, eventsOf, hpasses, closing]

/-- What a pass tells at its end are no diagnostics. -/
theorem diagnosticsOf_closing (report : PassReport) : diagnosticsOf (closing report) = [] := by
  unfold closing
  split <;> rfl

/-- Around the events of its only pass, a run over a pool reports nothing. -/
theorem diagnosticsOf_eventsOf (processor : Processor) (found : Nat)
    (outcomes : List Outcome) (events : List Event) :
    diagnosticsOf (processor.eventsOf found outcomes events) = diagnosticsOf events := by
  have hopening : diagnosticsOf [Event.declarationsFound processor.marker found] = [] := rfl
  rw [eventsOf, ← List.singleton_append, diagnosticsOf_append, diagnosticsOf_append, hopening,
    List.nil_append]
  split
  · exact List.append_nil _
  · rw [diagnosticsOf_append, diagnosticsOf_closing]
    split <;> simp [diagnosticsOf, Event.diagnostic?]

/-- Around the writing of a class nothing is reported but its failure. -/
theorem diagnosticsOf_writingEvents (typeName : String) (result : Except GenerationError Unit)
    (filed : List FilingEvent) :
    diagnosticsOf (writingEvents typeName result filed) =
      match result with
      | .ok () => []
      | .error failure => [.error failure.file failure.message] := by
  unfold writingEvents
  rw [← List.singleton_append, diagnosticsOf_append, diagnosticsOf_append, diagnosticsOf_filing]
  rcases result with failure | ⟨⟩ <;> rfl

end Processor

end ToStringGen
