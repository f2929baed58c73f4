import Mathlib.Data.List.Chain
import ToStringGen.Proofs.Processing.Passes

/-!
# Processing follows its diagram

The diagram says which stage may follow which, and which stages are final. Processing a
declaration moves its outcome along the diagram from the start to a final stage, and logs
each step on the way. A pass leads the declarations that the source hands out along the
diagram one after the other, and a run does so batch after batch, so that none of them is
left without an outcome. Every final stage is counted as one of three kinds, so that the
counts of a run account for each of its outcomes.
-/

namespace ToStringGen

open Log (Event)

variable {σ S : Type}

/-- The steps from each stage to the next, for a type of some name. -/
def Stage.stepsOf (typeName : String) (stages : List Stage) : List (String × Stage × Stage) :=
  (stages.zip stages.tail).map fun (source, target) => (typeName, source, target)

/-- An outcome advances from stage to stage, never by a step that is not allowed, and each step is
told among other events. -/
inductive Moves : Outcome → List Stage → List Event → Outcome → Prop
  | stay (outcome : Outcome) : Moves outcome [outcome.stage] [] outcome
  | tell {outcome final : Outcome} {stages : List Stage} {events : List Event} {event : Event}
      (hother : event.step? = none) (rest : Moves outcome stages events final) :
      Moves outcome stages (event :: events) final
  | advance {outcome final : Outcome} {stages : List Stage} {events : List Event} {next : Stage}
      (hallowed : outcome.stage.canBecome next = true)
      (rest : Moves (outcome.advance next).1 stages events final) :
      Moves outcome (outcome.stage :: stages) ((outcome.advance next).2 :: events) final

namespace Moves

variable {outcome final : Outcome} {stages : List Stage} {events : List Event}

/-- Any number of other events may be told. -/
theorem tellAll {told : List Event} (hother : ∀ event ∈ told, event.step? = none)
    (rest : Moves outcome stages events final) : Moves outcome stages (told ++ events) final := by
  induction told with
  | nil => exact rest
  | cons event told ih =>
    obtain ⟨hfirst, hother⟩ := List.forall_mem_cons.mp hother
    exact .tell hfirst (ih hother)

/-- The first stage is the one at the start. -/
theorem head?_eq (h : Moves outcome stages events final) :
    stages.head? = some outcome.stage := by
  induction h with
  | stay outcome => rfl
  | tell _ _ ih => exact ih
  | advance _ _ _ => rfl

/-- The last stage is the one at the end. -/
theorem getLast?_eq (h : Moves outcome stages events final) :
    stages.getLast? = some final.stage := by
  induction h with
  | stay outcome => rfl
  | tell _ _ ih => exact ih
  | advance _ _ ih => rw [List.getLast?_cons, ih, Option.getD_some]

/-- Each stage follows the one before by an allowed step. -/
theorem isChain (h : Moves outcome stages events final) :
    stages.IsChain fun source target => source.canBecome target = true := by
  induction h with
  | stay outcome => exact .singleton _
  | tell _ _ ih => exact ih
  | advance hallowed rest ih =>
    refine List.isChain_cons.mpr ⟨fun next hnext => ?_, ih⟩
    rw [rest.head?_eq] at hnext
    exact Option.mem_some.mp hnext ▸ hallowed

/-- The steps told are those between the stages. -/
theorem filterMap_step?_eq (h : Moves outcome stages events final) :
    events.filterMap Event.step? = Stage.stepsOf outcome.typeName stages := by
  induction h with
  | stay outcome => rfl
  | tell hother _ ih => rw [List.filterMap_cons_none hother, ih]
  | @advance outcome _ stages _ next hallowed rest ih =>
    obtain ⟨more, rfl⟩ := List.head?_eq_some_iff.mp rest.head?_eq
    have hstep : (outcome.advance next).2.step? =
        some (outcome.typeName, outcome.stage, next) := rfl
    rw [List.filterMap_cons_some hstep, ih]
    rfl

/-- The outcome stays that of the same type. -/
theorem typeName_eq (h : Moves outcome stages events final) :
    final.typeName = outcome.typeName := by
  induction h with
  | stay outcome => rfl
  | tell _ _ ih => exact ih
  | advance _ _ ih => exact ih

end Moves

/-- Types are left alone at two stages. -/
theorem Stage.isSkipped_eq (stage : Stage) :
    stage.isSkipped = (stage == .overridden || stage == .noEligibleFields) := by
  cases stage <;> decide

/-- An outcome that is final: it names a class if and only if one was generated, and then the one
named after its type. -/
structure Outcome.IsSettled (outcome : Outcome) : Prop where
  isTerminal : outcome.stage.isTerminal = true
  artifact_eq : outcome.artifact =
    if outcome.stage = .generated then some (outcome.typeName ++ "WithToString") else none

/-- The way of a declaration through the diagram, with what is told on it. -/
structure FollowsDiagram (typeName : String) (stages : List Stage) (outcome : Outcome)
    (events : List Event) : Prop where
  /-- The outcome advances through these stages, and last of all a generated class is noted. -/
  moves : Moves (.discovered typeName) stages events { outcome with artifact := none }
  head?_eq : stages.head? = some .discovered
  isChain : stages.IsChain fun source target => source.canBecome target = true
  getLast?_eq : stages.getLast? = some outcome.stage
  /-- No step leads any further. -/
  isMaximal : ∀ next, outcome.stage.canBecome next = false
  /-- The steps logged are those between the stages, in order. -/
  logged : events.filterMap Event.step? = Stage.stepsOf typeName stages
  typeName_eq : outcome.typeName = typeName
  settled : outcome.IsSettled

/-- Moves of a declaration to a final outcome are a way through the diagram. -/
theorem Moves.followsDiagram {typeName : String} {stages : List Stage} {outcome : Outcome}
    {events : List Event}
    (h : Moves (.discovered typeName) stages events { outcome with artifact := none })
    (hsettled : outcome.IsSettled) : FollowsDiagram typeName stages outcome events where
  moves := h
  head?_eq := h.head?_eq
  isChain := h.isChain
  getLast?_eq := h.getLast?_eq
  isMaximal := Stage.isTerminal_iff.mp hsettled.isTerminal
  logged := h.filterMap_step?_eq
  typeName_eq := h.typeName_eq
  settled := hsettled

/-- Declarations are led along the diagram one after the other, while other events are told as
well. There is one outcome for each, and all steps of one are told before those of the next. -/
inductive FollowInTurn : List TypeDeclaration → List Outcome → List Event → Prop
  | nil : FollowInTurn [] [] []
  | tell {declarations : List TypeDeclaration} {outcomes : List Outcome} {events : List Event}
      {event : Event} (hother : event.step? = none)
      (rest : FollowInTurn declarations outcomes events) :
      FollowInTurn declarations outcomes (event :: events)
  | next {declaration : TypeDeclaration} {declarations : List TypeDeclaration}
      {stages : List Stage} {outcome : Outcome} {outcomes : List Outcome}
      {events more : List Event}
      (first : FollowsDiagram declaration.qualifiedName stages outcome events)
      (rest : FollowInTurn declarations outcomes more) :
      FollowInTurn (declaration :: declarations) (outcome :: outcomes) (events ++ more)

namespace FollowInTurn

variable {declarations others : List TypeDeclaration} {outcomes later : List Outcome}
  {events more : List Event}

/-- Other events alone lead no declaration anywhere. -/
theorem of_others (hother : ∀ event ∈ events, event.step? = none) :
    FollowInTurn [] [] events := by
  induction events with
  | nil => exact .nil
  | cons event events ih =>
    obtain ⟨hfirst, hother⟩ := List.forall_mem_cons.mp hother
    exact .tell hfirst (ih hother)

/-- Further declarations may be led along the diagram afterwards. -/
theorem append (first : FollowInTurn declarations outcomes events)
    (second : FollowInTurn others later more) :
    FollowInTurn (declarations ++ others) (outcomes ++ later) (events ++ more) := by
  induction first with
  | nil => exact second
  | tell hother _ ih => exact .tell hother ih
  | next first _ ih =>
    rw [List.append_assoc]
    exact .next first ih

/-- The outcomes are those of the declarations, by their names and in their order. -/
theorem map_typeName (h : FollowInTurn declarations outcomes events) :
    outcomes.map Outcome.typeName = declarations.map TypeDeclaration.qualifiedName := by
  induction h with
  | nil => rfl
  | tell _ _ ih => exact ih
  | next first _ ih => rw [List.map_cons, List.map_cons, first.typeName_eq, ih]

/-- Every declaration comes to a final stage. -/
theorem isSettled (h : FollowInTurn declarations outcomes events) :
    ∀ outcome ∈ outcomes, outcome.IsSettled := by
  induction h with
  | nil => simp
  | tell _ _ ih => exact ih
  | next first _ ih => exact List.forall_mem_cons.mpr ⟨first.settled, ih⟩

end FollowInTurn

/-- A final stage is of exactly one of the three kinds that are counted. -/
theorem Outcome.IsSettled.counted_once {outcome : Outcome} (h : outcome.IsSettled) :
    (if outcome.stage == .generated then 1 else 0) +
      (if outcome.stage.isSkipped then 1 else 0) +
      (if outcome.stage == .ioFailure then 1 else 0) = 1 := by
  have hterminal := h.isTerminal
  cases hstage : outcome.stage <;> rw [hstage] at hterminal
  case discovered | hasFields => cases hterminal
  case overridden | noEligibleFields | generated | ioFailure => rfl

/-- Three counts account for outcomes: each outcome is counted once, and as many classes are listed
as are counted as generated. -/
structure AccountFor (outcomes : List Outcome) (generated skipped failed : Nat) : Prop where
  sum_eq : generated + skipped + failed = outcomes.length
  length_artifacts : (outcomes.filterMap Outcome.artifact).length = generated

/-- The counts of the three kinds of final stages account for settled outcomes. -/
theorem accountFor_of_isSettled {outcomes : List Outcome}
    (h : ∀ outcome ∈ outcomes, outcome.IsSettled) :
    AccountFor outcomes (outcomes.countP fun outcome => outcome.stage == .generated)
      (outcomes.countP fun outcome => outcome.stage.isSkipped)
      (outcomes.countP fun outcome => outcome.stage == .ioFailure) := by
  induction outcomes with
  | nil => exact ⟨rfl, rfl⟩
  | cons outcome rest ih =>
    obtain ⟨hfirst, hrest⟩ := List.forall_mem_cons.mp h
    obtain ⟨hsum, hlength⟩ := ih hrest
    constructor
    · have honce := hfirst.counted_once
      simp only [List.countP_cons, List.length_cons, ← hsum]
      omega
    · by_cases hstage : outcome.stage = .generated <;>
        simp [hfirst.artifact_eq, hstage, hlength]

/-- Outcomes and their counts account for declarations: there is one outcome for each of them, by
its name and in its place, and each is final and counted exactly once. -/
structure AccountForEach (declarations : List TypeDeclaration) (outcomes : List Outcome)
    (generated skipped failed : Nat) : Prop
    extends AccountFor outcomes generated skipped failed where
  typeNames_eq : outcomes.map Outcome.typeName =
    declarations.map TypeDeclaration.qualifiedName
  settled : ∀ outcome ∈ outcomes, outcome.IsSettled
  counted_once : ∀ outcome ∈ outcomes,
    (if outcome.stage == .generated then 1 else 0) +
      (if outcome.stage.isSkipped then 1 else 0) +
      (if outcome.stage == .ioFailure then 1 else 0) = 1

/-- Settled outcomes account for the declarations whose names they have. -/
theorem accountForEach_of_isSettled {declarations : List TypeDeclaration}
    {outcomes : List Outcome}
    (hnames : outcomes.map Outcome.typeName = declarations.map TypeDeclaration.qualifiedName)
    (h : ∀ outcome ∈ outcomes, outcome.IsSettled) :
    AccountForEach declarations outcomes
      (outcomes.countP fun outcome => outcome.stage == .generated)
      (outcomes.countP fun outcome => outcome.stage.isSkipped)
      (outcomes.countP fun outcome => outcome.stage == .ioFailure) where
  toAccountFor := accountFor_of_isSettled h
  typeNames_eq := hnames
  settled := h
  counted_once outcome hmem := (h outcome hmem).counted_once

namespace Processor

/-- Processing a declaration follows the diagram. -/
theorem processType_followsDiagram (filer : Filer (StateM σ)) (declaration : TypeDeclaration)
    (s : σ) :
    let processed := (processType filer declaration).run s
    ∃ stages, FollowsDiagram declaration.qualifiedName stages processed.1.1 processed.1.2 := by
  refine processType_cases filer declaration
    (motive := fun action => ∃ stages, FollowsDiagram declaration.qualifiedName stages
      (action.run s).1.1 (action.run s).1.2)
    (fun _ => ?_) (fun _ _ => ?_) fun _ _ => ?_
  · exact ⟨_, Moves.followsDiagram (.advance rfl (.tell rfl (.stay _))) ⟨rfl, rfl⟩⟩
  · exact ⟨_, Moves.followsDiagram (.advance rfl (.stay _)) ⟨rfl, rfl⟩⟩
  · rcases hwrite : (filer.writeArtifact declaration.classArtifact).run s with
      ⟨⟨result, filed⟩, t⟩
    simp only [run_bind, hwrite, run_pure]
    have hfiled : ∀ event ∈ filed.map Event.filing, event.step? = none := by
      simp [Event.step?]
    cases result with
    | ok =>
      exact ⟨_, Moves.followsDiagram
        (.advance rfl (.tellAll hfiled (.advance rfl (.stay _)))) ⟨rfl, rfl⟩⟩
    | error failure =>
      exact ⟨_, Moves.followsDiagram
        (.advance rfl (.tellAll hfiled (.advance rfl (.tell rfl (.stay _))))) ⟨rfl, rfl⟩⟩

/-- Processing declarations one after the other leads each of them along the diagram. -/
theorem processAll_followInTurn (filer : Filer (StateM σ)) (declarations : List TypeDeclaration)
    (s : σ) :
    let processed := (processAll filer declarations).run s
    FollowInTurn declarations processed.1.1 processed.1.2 := by
  induction declarations generalizing s with
  | nil => exact .nil
  | cons declaration rest ih =>
    obtain ⟨stages, hfirst⟩ := processType_followsDiagram filer declaration s
    rw [processAll]
    simp only [run_bind, run_pure]
    exact .next hfirst (ih _)

/-- What a pass tells at its end is no step. -/
theorem step?_of_mem_closing {report : PassReport} {event : Event}
    (h : event ∈ closing report) : event.step? = none := by
  unfold closing at h
  split at h
  · cases h
  · rw [List.mem_singleton.mp h]
    rfl

section Sources

variable [Discovery S] (processor : Processor) (filer : Filer (StateM σ))

/-- A pass leads what the source hands out along the diagram. -/
theorem processPass_followInTurn (source : S) (s : σ) :
    let passed := (processor.processPass filer source).run s
    FollowInTurn (Discovery.find source processor.marker).1 passed.1.1.outcomes
      passed.1.2.1 := by
  have hall := processAll_followInTurn filer (Discovery.find source processor.marker).1 s
  simp only [processPass, run_bind, run_pure]
  simpa using FollowInTurn.tell rfl (hall.append (.of_others fun _ => step?_of_mem_closing))

/-- Passes lead what the source hands out to them along the diagram, batch after batch. -/
theorem runPasses_followInTurn (pass left : Nat) (source : S) (s : σ) :
    let passed := (processor.runPasses filer pass left source).run s
    FollowInTurn (processor.discovered left source) passed.1.1.outcomes passed.1.2.1 := by
  induction left generalizing pass source s with
  | zero =>
    simp only [runPasses, run_pure, discovered]
    refine .of_others fun event hmem => ?_
    rw [List.mem_singleton.mp hmem]
    split <;> rfl
  | succ left ih =>
    have hpass := processor.processPass_followInTurn filer source s
    obtain ⟨hsource, hempty, _⟩ := processPass_spec processor filer source s
    rcases hrun : (processor.processPass filer source).run s with ⟨⟨report, events, after⟩, u⟩
    rw [hrun] at hpass hsource hempty
    dsimp only at hpass hsource hempty
    simp only [runPasses, run_bind, hrun, discovered, ← hempty, ← hsource]
    split
    · next hnone =>
      -- The pass that has nothing to do is the last one, and its report is not kept.
      have hfound : (Discovery.find source processor.marker).1 = [] :=
        List.isEmpty_iff.mp (hempty.symm.trans hnone)
      have houtcomes : report.outcomes = [] := List.isEmpty_iff.mp hnone
      rwa [hfound, houtcomes] at hpass
    · have hrest := ih (pass + 1) after u
      simp only [run_bind, run_pure, RunReport.outcomes, List.flatMap_cons]
      exact hpass.append (.tell rfl hrest)

/-- A run leads what the source hands out along the diagram. -/
theorem runToCompletion_followInTurn (source : S) (s : σ) :
    let run := (processor.runToCompletion filer source).run s
    FollowInTurn (processor.discovered processor.maxPasses source) run.1.1.outcomes run.1.2.1 :=
  processor.runPasses_followInTurn filer 1 processor.maxPasses source s

/-- Each pass of a run accounts for the batch that the source handed out for it. -/
theorem runToCompletion_accounts (source : S) (s : σ) :
    let run := ((processor.runToCompletion filer source).run s).1.1
    List.Forall₂
      (fun pass batch =>
        AccountForEach batch pass.outcomes pass.generated pass.skipped pass.failed)
      run.passes (processor.leadingBatches processor.maxPasses source) := by
  intro run
  have hsettled := (processor.runToCompletion_followInTurn filer source s).isSettled
  have hfinal : ∀ pass ∈ run.passes, ∀ outcome ∈ pass.outcomes, outcome.IsSettled :=
    fun pass hpass outcome houtcome => hsettled outcome (List.mem_flatMap_of_mem hpass houtcome)
  have hnames := (runPasses_runsThrough processor filer 1 processor.maxPasses source s).passes_eq
  rw [← List.forall₂_eq_eq_eq, List.forall₂_map_left_iff, List.forall₂_map_right_iff] at hnames
  exact ((List.forall₂_and_left _ _).mpr ⟨hfinal, hnames⟩).imp
    fun _ _ ⟨hsettled, hnames⟩ => accountForEach_of_isSettled hnames hsettled

end Sources

/-- Processing follows its diagram. Whatever the filer does, each declaration goes from the start to
a final stage by steps that are allowed, these steps and no others are logged for it, and a class
is named in its outcome exactly if one was generated. A pass does this to what the source hands
out, one declaration after the other, and a run over any source with any limit does it to all that
the source hands out, batch after batch. So none of these declarations is left without a final
outcome of its own, and the counts of every pass and of the run account for each of them. -/
theorem processing_follows_diagram [Discovery S] (processor : Processor)
    (filer : Filer (StateM σ)) (source : S) (s : σ) :
    let found := (Discovery.find source processor.marker).1
    let passed := ((processor.processPass filer source).run s).1
    let pass := passed.1
    let discovered := processor.discovered processor.maxPasses source
    let finished := ((processor.runToCompletion filer source).run s).1
    let run := finished.1
    (∀ (declaration : TypeDeclaration) (t : σ),
      let processed := (processType filer declaration).run t
      ∃ stages, FollowsDiagram declaration.qualifiedName stages processed.1.1 processed.1.2) ∧
    FollowInTurn found pass.outcomes passed.2.1 ∧
    AccountForEach found pass.outcomes pass.generated pass.skipped pass.failed ∧
    FollowInTurn discovered run.outcomes finished.2.1 ∧
    List.Forall₂
      (fun pass batch =>
        AccountForEach batch pass.outcomes pass.generated pass.skipped pass.failed)
      run.passes (processor.leadingBatches processor.maxPasses source) ∧
    AccountForEach discovered run.outcomes run.generated run.skipped run.failed := by
  intro found passed pass discovered finished run
  have hpass : FollowInTurn found pass.outcomes passed.2.1 :=
    processor.processPass_followInTurn filer source s
  have hrun : FollowInTurn discovered run.outcomes finished.2.1 :=
    processor.runToCompletion_followInTurn filer source s
  exact ⟨processType_followsDiagram filer, hpass,
    accountForEach_of_isSettled hpass.map_typeName hpass.isSettled, hrun,
    processor.runToCompletion_accounts filer source s,
    accountForEach_of_isSettled hrun.map_typeName hrun.isSettled⟩

end Processor

end ToStringGen
