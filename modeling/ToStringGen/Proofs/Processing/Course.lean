import ToStringGen.Proofs.Processing.Run
import ToStringGen.Proofs.StateM

/-!
# The course of a run

A run treats declarations one after the other, pass by pass, each on the state of the
filer that the one before left. Its outcomes, and the diagnostics that it reports on the
way, are those of the single treatments in this order, for any source, any filer and any
limit on passes.
-/

namespace ToStringGen

open Log (Event)

variable {σ S : Type}

/-- A declaration that was brought to a final stage. -/
structure Treatment where
  declaration : TypeDeclaration
  outcome : Outcome
  /-- Why its class could not be written, if that was tried in vain. -/
  failure : Option GenerationError := none

/-- What the build is to be told about a declaration that was brought to a final stage. -/
def Treatment.due (treatment : Treatment) : List Diagnostic :=
  match treatment.outcome.stage, treatment.failure with
  | .overridden, _ => [.alreadyOverridden treatment.outcome.typeName]
  | .ioFailure, some failure => [.error failure.file failure.message]
  | _, _ => []

/-- The treatment of one declaration, from one state of the filer to another. What is written for
it is its class, and the failure is the one that the writing came to. -/
inductive Treats (filer : Filer (StateM σ)) : σ → Treatment → σ → Prop
  | overridden {declaration : TypeDeclaration} (s : σ)
      (h : declaration.overridesToString = true) :
      Treats filer s { declaration, outcome := .overridden declaration.qualifiedName } s
  | withoutFields {declaration : TypeDeclaration} (s : σ)
      (h : declaration.overridesToString = false) (hfields : declaration.eligibleFields = []) :
      Treats filer s { declaration, outcome := .withoutFields declaration.qualifiedName } s
  | generated {declaration : TypeDeclaration} {filed : List Log.FilingEvent} {s t : σ}
      (h : declaration.overridesToString = false) (hfields : declaration.eligibleFields ≠ [])
      (hwrite : (filer.writeArtifact declaration.classArtifact).run s = ((.ok (), filed), t)) :
      Treats filer s
        { declaration
          outcome := { typeName := declaration.qualifiedName, stage := .generated,
                       artifact := some (Java.Subclass.nameOf declaration.qualifiedName) } } t
  | failed {declaration : TypeDeclaration} {failure : GenerationError}
      {filed : List Log.FilingEvent} {s t : σ}
      (h : declaration.overridesToString = false) (hfields : declaration.eligibleFields ≠ [])
      (hwrite : (filer.writeArtifact declaration.classArtifact).run s =
        ((.error failure, filed), t)) :
      Treats filer s
        { declaration
          outcome := { typeName := declaration.qualifiedName, stage := .ioFailure,
                       artifact := none }
          failure := some failure } t

/-- Treatments one after the other. -/
inductive Course (filer : Filer (StateM σ)) : σ → List Treatment → σ → Prop
  | nil (s : σ) : Course filer s [] s
  | cons {s u t : σ} {treatment : Treatment} {treatments : List Treatment}
      (first : Treats filer s treatment u) (rest : Course filer u treatments t) :
      Course filer s (treatment :: treatments) t

/-- One course after another is a course. -/
theorem Course.append {filer : Filer (StateM σ)} {s u t : σ} {treatments more : List Treatment}
    (first : Course filer s treatments u) (second : Course filer u more t) :
    Course filer s (treatments ++ more) t := by
  induction first with
  | nil => exact second
  | cons treats _ ih => exact .cons treats (ih second)

/-- Declarations are treated in their order, with the outcomes and diagnostics given. -/
structure Follows (filer : Filer (StateM σ)) (s : σ) (treatments : List Treatment)
    (declarations : List TypeDeclaration) (outcomes : List Outcome)
    (diagnostics : List Diagnostic) (t : σ) : Prop where
  course : Course filer s treatments t
  declarations_eq : treatments.map Treatment.declaration = declarations
  outcomes_eq : outcomes = treatments.map Treatment.outcome
  diagnostics_eq : diagnostics = treatments.flatMap Treatment.due

namespace Follows

variable {filer : Filer (StateM σ)} {s u t : σ} {treatments more : List Treatment}
variable {declarations others : List TypeDeclaration} {outcomes later : List Outcome}
variable {diagnostics added : List Diagnostic}

/-- Nothing follows from no declarations. -/
theorem nil (filer : Filer (StateM σ)) (s : σ) : Follows filer s [] [] [] [] s :=
  ⟨.nil s, rfl, rfl, rfl⟩

/-- Two runs, one after the other. -/
theorem append (first : Follows filer s treatments declarations outcomes diagnostics u)
    (second : Follows filer u more others later added t) :
    Follows filer s (treatments ++ more) (declarations ++ others) (outcomes ++ later)
      (diagnostics ++ added) t where
  course := first.course.append second.course
  declarations_eq := by
    rw [List.map_append, first.declarations_eq, second.declarations_eq]
  outcomes_eq := by
    rw [List.map_append, first.outcomes_eq, second.outcomes_eq]
  diagnostics_eq := by
    rw [List.flatMap_append, first.diagnostics_eq, second.diagnostics_eq]

/-- Only without declarations there are no outcomes. -/
theorem isEmpty_eq (h : Follows filer s treatments declarations outcomes diagnostics t) :
    outcomes.isEmpty = declarations.isEmpty := by
  rw [h.outcomes_eq, ← h.declarations_eq, List.isEmpty_map, List.isEmpty_map]

end Follows

namespace Processor

variable (filer : Filer (StateM σ))

/-- One treatment is a course. -/
theorem follows_of_treats {treatment : Treatment} {s t : σ} {events : List Event}
    (h : Treats filer s treatment t) (hdue : diagnosticsOf events = treatment.due) :
    Follows filer s [treatment] [treatment.declaration] [treatment.outcome]
      (diagnosticsOf events) t :=
  ⟨.cons h (.nil t), rfl, rfl, by rw [hdue, List.flatMap_singleton]⟩

/-- Processing a declaration is its treatment. -/
theorem processType_follows (declaration : TypeDeclaration) (s : σ) :
    let processed := (processType filer declaration).run s
    ∃ treatment, Follows filer s [treatment] [declaration] [processed.1.1]
      (diagnosticsOf processed.1.2) processed.2 := by
  refine processType_cases filer declaration
    (motive := fun action => ∃ treatment, Follows filer s [treatment] [declaration]
      [(action.run s).1.1] (diagnosticsOf (action.run s).1.2) (action.run s).2)
    (fun hoverrides => ?_) (fun hplain hfields => ?_) fun hplain hfields => ?_
  · exact ⟨_, follows_of_treats filer (.overridden s hoverrides) rfl⟩
  · exact ⟨_, follows_of_treats filer (.withoutFields s hplain hfields) rfl⟩
  · rcases hwrite : (filer.writeArtifact declaration.classArtifact).run s with
      ⟨⟨result, filed⟩, t⟩
    simp only [run_bind, hwrite]
    have hdue := diagnosticsOf_writingEvents declaration.qualifiedName result filed
    cases result with
    | ok => exact ⟨_, follows_of_treats filer (.generated hplain hfields hwrite) hdue⟩
    | error failure => exact ⟨_, follows_of_treats filer (.failed hplain hfields hwrite) hdue⟩

/-- Processing declarations one after the other is a course of their treatments. -/
theorem processAll_follows (declarations : List TypeDeclaration) (s : σ) :
    let processed := (processAll filer declarations).run s
    ∃ treatments, Follows filer s treatments declarations processed.1.1
      (diagnosticsOf processed.1.2) processed.2 := by
  induction declarations generalizing s with
  | nil => exact ⟨[], .nil filer s⟩
  | cons declaration rest ih =>
    obtain ⟨treatment, hfirst⟩ := processType_follows filer declaration s
    obtain ⟨treatments, hrest⟩ := ih ((processType filer declaration).run s).2
    rw [processAll]
    simp only [run_bind, run_pure, diagnosticsOf_append]
    exact ⟨_, hfirst.append hrest⟩

section Sources

variable [Discovery S] (processor : Processor)

/-- The declarations that a source hands out, pass by pass, until it hands out none or a number
of passes is used up. -/
def discovered : Nat → S → List TypeDeclaration
  | 0, _ => []
  | left + 1, source =>
      let (declarations, source) := Discovery.find source processor.marker
      if declarations.isEmpty then [] else declarations ++ discovered left source

/-- A pass treats what the source hands out. -/
theorem processPass_follows (source : S) (s : σ) :
    let passed := (processor.processPass filer source).run s
    let found := Discovery.find source processor.marker
    passed.1.2.2 = found.2 ∧
      ∃ treatments, Follows filer s treatments found.1 passed.1.1.outcomes
        (diagnosticsOf passed.1.2.1) passed.2 := by
  obtain ⟨treatments, hfollows⟩ :=
    processAll_follows filer (Discovery.find source processor.marker).1 s
  refine ⟨rfl, treatments, ?_⟩
  have hdiagnostics : diagnosticsOf ((processor.processPass filer source).run s).1.2.1 =
      diagnosticsOf ((processAll filer (Discovery.find source processor.marker).1).run s).1.2 := by
    simp only [processPass, run_bind, run_pure]
    rw [diagnosticsOf_append, diagnosticsOf_closing, List.append_nil]
    rfl
  rw [hdiagnostics]
  exact hfollows

/-- Passes treat what the source hands out to them, batch after batch. -/
theorem runPasses_follows (pass left : Nat) (source : S) (s : σ) :
    let passed := (processor.runPasses filer pass left source).run s
    ∃ treatments, Follows filer s treatments (processor.discovered left source)
      passed.1.1.outcomes (diagnosticsOf passed.1.2.1) passed.2 := by
  induction left generalizing pass source s with
  | zero =>
    simp only [runPasses, run_pure, discovered]
    refine ⟨[], ?_⟩
    split <;> exact .nil filer s
  | succ left ih =>
    obtain ⟨hsource, treatments, hpass⟩ := processPass_follows filer processor source s
    have hempty := hpass.isEmpty_eq
    rcases hrun : (processor.processPass filer source).run s with ⟨⟨report, events, after⟩, u⟩
    rw [hrun] at hsource hpass hempty
    simp only at hsource hpass hempty
    simp only [runPasses, run_bind, hrun, discovered, ← hempty, ← hsource, PassReport.isEmpty]
    split
    · next hnone =>
      -- The pass that has nothing to do is the last one, and its report is not kept.
      have hnothing : (Discovery.find source processor.marker).1 = [] :=
        List.isEmpty_iff.mp (hempty.symm.trans hnone)
      rw [hnothing, List.isEmpty_iff.mp hnone] at hpass
      exact ⟨treatments, hpass⟩
    · obtain ⟨more, hrest⟩ := ih (pass + 1) after u
      refine ⟨treatments ++ more, ?_⟩
      simp only [run_bind, run_pure, RunReport.outcomes, List.flatMap_cons, diagnosticsOf_append]
      exact hpass.append hrest

/-- A run treats what the source hands out until it has nothing more or the limit is reached. -/
theorem runToCompletion_follows (source : S) (s : σ) :
    let run := (processor.runToCompletion filer source).run s
    ∃ treatments, Follows filer s treatments (processor.discovered processor.maxPasses source)
      run.1.1.outcomes (diagnosticsOf run.1.2.1) run.2 :=
  runPasses_follows filer processor 1 processor.maxPasses source s

end Sources

end Processor

end ToStringGen
