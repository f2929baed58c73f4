import Mathlib.Algebra.Ring.Nat
import Mathlib.Logic.Function.Iterate
import ToStringGen.Discovery.Stream
import ToStringGen.Filer.Memory
import ToStringGen.Proofs.Processing.Course

/-!
# Passes and batches

A run makes one pass for each batch that the source hands out, until a batch is empty or
the limit is reached. Which batches these are is a matter of the source alone. A run asks
for no batch beyond the limit, and whether the source has more only at the limit.
-/

namespace ToStringGen

open Log (Event)

variable {σ S : Type}

/-- A source together with the markers for which it was asked for a batch, in order. -/
structure Noted (S : Type) where
  source : S
  markers : List String := []

instance [Discovery S] : Discovery (Noted S) where
  find noted marker :=
    let (found, source) := Discovery.find noted.source marker
    (found, { source, markers := noted.markers ++ [marker] })
  hasPending noted := Discovery.hasPending noted.source

/-- The same source, but for its answers about whether it has more. -/
abbrev Discovery.answering [Discovery S] (hasPending : S → String → Bool) : Discovery S where
  find := Discovery.find
  hasPending := hasPending

/-- Whether an event is the warning that declarations are left at the limit. -/
def Log.Event.isLimitWarning : Event → Bool
  | limitReachedPending _ => true
  | _ => false

namespace RunReport

/-- The outcomes of a run are counted pass by pass. -/
theorem count_eq_sum (report : RunReport) (holds : Stage → Bool) :
    report.count holds = (report.passes.map fun pass => pass.count holds).sum := by
  rw [count, outcomes, List.countP_flatMap]
  rfl

end RunReport

/-- Every outcome goes by the name of its declaration. -/
theorem Course.map_typeName {filer : Filer (StateM σ)} {s t : σ} {treatments : List Treatment}
    (h : Course filer s treatments t) :
    (treatments.map Treatment.outcome).map Outcome.typeName =
      (treatments.map Treatment.declaration).map TypeDeclaration.qualifiedName := by
  induction h with
  | nil => rfl
  | cons first _ ih =>
    simp only [List.map_cons, ih]
    cases first <;> rfl

namespace Processor

section Batches

variable [Discovery S] (processor : Processor)

/-- A source after a number of calls for the marker of a processor. -/
def sourceAfter (source : S) (calls : Nat) : S :=
  (fun source : S => (Discovery.find source processor.marker).2)^[calls] source

/-- The batch that a source hands out after a number of calls. -/
def batch (source : S) (calls : Nat) : List TypeDeclaration :=
  (Discovery.find (processor.sourceAfter source calls) processor.marker).1

/-- The batches that a source hands out before the first empty one, up to a limit. -/
def leadingBatches (limit : Nat) (source : S) : List (List TypeDeclaration) :=
  ((List.range limit).map (processor.batch source)).takeWhile fun batch => !batch.isEmpty

/-- How often a source is asked for a batch: once more than it hands out a batch with something
in it, unless the limit is reached. -/
def askedFor (limit : Nat) (source : S) : Nat :=
  let batches := (processor.leadingBatches limit source).length
  if batches = limit then batches else batches + 1

/-- One call after the other. -/
theorem sourceAfter_succ (source : S) (calls : Nat) :
    processor.sourceAfter source (calls + 1) =
      processor.sourceAfter (Discovery.find source processor.marker).2 calls :=
  Function.iterate_succ_apply ..

/-- The first batch leads, unless it is empty, and is followed by those of the source after it. -/
theorem leadingBatches_succ (limit : Nat) (source : S) :
    processor.leadingBatches (limit + 1) source =
      if (Discovery.find source processor.marker).1.isEmpty then []
      else (Discovery.find source processor.marker).1 ::
        processor.leadingBatches limit (Discovery.find source processor.marker).2 := by
  have hrest : processor.batch source ∘ Nat.succ =
      processor.batch (Discovery.find source processor.marker).2 := by
    funext calls
    rw [Function.comp_apply, batch, Nat.succ_eq_add_one, sourceAfter_succ, batch]
  have hfirst : processor.batch source 0 = (Discovery.find source processor.marker).1 := rfl
  rw [leadingBatches, List.range_succ_eq_map, List.map_cons, List.map_map, hrest, hfirst,
    List.takeWhile_cons]
  cases (Discovery.find source processor.marker).1.isEmpty <;> rfl

/-- An empty batch is the last one asked for. -/
theorem askedFor_succ_of_isEmpty (limit : Nat) {source : S}
    (h : (Discovery.find source processor.marker).1.isEmpty = true) :
    processor.askedFor (limit + 1) source = 1 := by
  rw [askedFor, leadingBatches_succ, if_pos h]
  rfl

/-- After a batch with something in it as many are asked for as of the source after it. -/
theorem askedFor_succ_of_not_isEmpty (limit : Nat) {source : S}
    (h : (Discovery.find source processor.marker).1.isEmpty = false) :
    processor.askedFor (limit + 1) source =
      processor.askedFor limit (Discovery.find source processor.marker).2 + 1 := by
  simp only [askedFor, leadingBatches_succ, h, Bool.false_eq_true, if_false, List.length_cons,
    Nat.add_right_cancel_iff]
  split <;> rfl

end Batches

section Warnings

variable (filer : Filer (StateM σ))

/-- Writing a class does not warn about the limit. -/
theorem filter_isLimitWarning_writingEvents (typeName : String)
    (result : Except GenerationError Unit) (filed : List Log.FilingEvent) :
    (writingEvents typeName result filed).filter Event.isLimitWarning = [] := by
  have hfiled : (filed.map Event.filing).filter Event.isLimitWarning = [] := by
    simp [List.filter_map, Function.comp_def, Event.isLimitWarning]
  unfold writingEvents
  rw [List.filter_append, List.filter_cons_of_neg (by simp [Event.isLimitWarning]), hfiled]
  cases result <;> rfl

/-- The end of a pass is no warning about the limit. -/
theorem filter_isLimitWarning_closing (report : PassReport) :
    (closing report).filter Event.isLimitWarning = [] := by
  unfold closing
  split <;> rfl

/-- Processing a declaration does not warn about the limit. -/
theorem filter_isLimitWarning_processType (declaration : TypeDeclaration) (s : σ) :
    ((processType filer declaration).run s).1.2.filter Event.isLimitWarning = [] :=
  processType_cases filer declaration
    (motive := fun action => (action.run s).1.2.filter Event.isLimitWarning = [])
    (fun _ => rfl) (fun _ _ => rfl) fun _ _ => filter_isLimitWarning_writingEvents ..

/-- Processing declarations does not warn about the limit. -/
theorem filter_isLimitWarning_processAll (declarations : List TypeDeclaration) (s : σ) :
    ((processAll filer declarations).run s).1.2.filter Event.isLimitWarning = [] := by
  induction declarations generalizing s with
  | nil => rfl
  | cons declaration rest ih =>
    rw [processAll]
    simp only [run_bind, run_pure, List.filter_append, filter_isLimitWarning_processType, ih,
      List.append_nil]

end Warnings

section Runs

variable [Discovery S] (processor : Processor) (filer : Filer (StateM σ))

/-- What comes of a run with a limit on its passes, by the batches that the source hands out. -/
structure RunsThrough (limit : Nat) (source : S) (report : RunReport) (events : List Event)
    (left : S) : Prop where
  /-- There is a pass for each leading batch, with an outcome for each of its declarations, in
  order and by its name. -/
  passes_eq : (report.passes.map fun pass => pass.outcomes.map Outcome.typeName) =
    (processor.leadingBatches limit source).map fun batch =>
      batch.map TypeDeclaration.qualifiedName
  isEmpty_eq_false : ∀ pass ∈ report.passes, pass.isEmpty = false
  hitPassLimit_iff : report.hitPassLimit = true ↔
    (processor.leadingBatches limit source).length = limit
  /-- No batch was taken from the source but those asked for. -/
  left_eq : left = processor.sourceAfter source (processor.askedFor limit source)
  pending_iff : report.pending = true ↔
    report.hitPassLimit = true ∧ Discovery.hasPending left processor.marker = true
  /-- There is a warning about the limit if declarations are left, and no other. -/
  warnings_eq : events.filter Event.isLimitWarning =
    if report.pending then [.limitReachedPending processor.maxPasses] else []

/-- A pass has the outcomes of a batch, by their names, and does not warn about the limit. -/
theorem processPass_spec (source : S) (s : σ) :
    let passed := (processor.processPass filer source).run s
    let found := Discovery.find source processor.marker
    passed.1.2.2 = found.2 ∧ passed.1.1.isEmpty = found.1.isEmpty ∧
      passed.1.1.outcomes.map Outcome.typeName =
        found.1.map TypeDeclaration.qualifiedName ∧
      passed.1.2.1.filter Event.isLimitWarning = [] := by
  obtain ⟨hsource, treatments, hfollows⟩ := processPass_follows filer processor source s
  refine ⟨hsource, hfollows.isEmpty_eq, ?_, ?_⟩
  · rw [hfollows.outcomes_eq, hfollows.course.map_typeName, hfollows.declarations_eq]
  · simp only [processPass, run_bind, run_pure]
    rw [List.filter_append, List.filter_cons_of_neg (by simp [Event.isLimitWarning]),
      filter_isLimitWarning_processAll, filter_isLimitWarning_closing, List.append_nil]

/-- Passes run through the leading batches. -/
theorem runPasses_runsThrough (pass limit : Nat) (source : S) (s : σ) :
    let passed := (processor.runPasses filer pass limit source).run s
    processor.RunsThrough limit source passed.1.1 passed.1.2.1 passed.1.2.2 := by
  induction limit generalizing pass source s with
  | zero =>
    refine ⟨rfl, fun _ hmem => absurd hmem List.not_mem_nil, ⟨fun _ => rfl, fun _ => rfl⟩, rfl,
      ⟨fun h => ⟨rfl, h⟩, And.right⟩, ?_⟩
    change [if Discovery.hasPending source processor.marker then
      Event.limitReachedPending processor.maxPasses else _].filter Event.isLimitWarning =
        if Discovery.hasPending source processor.marker then _ else []
    split <;> rfl
  | succ limit ih =>
    obtain ⟨hsource, hempty, hnames, hwarnings⟩ := processPass_spec processor filer source s
    rcases hrun : (processor.processPass filer source).run s with ⟨⟨report, events, after⟩, u⟩
    rw [hrun] at hsource hempty hnames hwarnings
    dsimp only at hsource hempty hnames hwarnings
    cases hbatch : (Discovery.find source processor.marker).1.isEmpty with
    | true =>
      have hbatches : processor.leadingBatches (limit + 1) source = [] := by
        rw [leadingBatches_succ, if_pos hbatch]
      have hasked := processor.askedFor_succ_of_isEmpty limit hbatch
      simp only [runPasses, run_bind, hrun, hempty, hbatch, if_true, run_pure]
      refine ⟨by rw [hbatches]; rfl, by simp, by simp [hbatches], ?_, by simp, hwarnings⟩
      rw [hasked, hsource]
      rfl
    | false =>
      have hbatches : processor.leadingBatches (limit + 1) source =
          (Discovery.find source processor.marker).1 :: processor.leadingBatches limit after := by
        rw [leadingBatches_succ, hbatch, if_neg Bool.false_ne_true, hsource]
      have hasked := processor.askedFor_succ_of_not_isEmpty limit hbatch
      have hrest := ih (pass + 1) after u
      simp only [runPasses, run_bind, hrun, hempty, hbatch, Bool.false_eq_true, if_false, run_pure]
      refine ⟨?_, ?_, ?_, ?_, hrest.pending_iff, ?_⟩
      · rw [List.map_cons, hbatches, List.map_cons, hnames, hrest.passes_eq]
      · rw [List.forall_mem_cons]
        exact ⟨hempty.trans hbatch, hrest.isEmpty_eq_false⟩
      · rw [hrest.hitPassLimit_iff, hbatches, List.length_cons, Nat.add_right_cancel_iff]
      · rw [hrest.left_eq, hasked, sourceAfter_succ, hsource]
      · rw [List.filter_append, hwarnings, List.nil_append,
          List.filter_cons_of_neg (by simp [Event.isLimitWarning]), hrest.warnings_eq]

/-- Noting the markers does not change the passes, and each call for a batch is noted. -/
theorem runPasses_noted (pass limit : Nat) (source : S) (markers : List String) (s : σ) :
    let passed := (processor.runPasses filer pass limit source).run s
    (processor.runPasses filer pass limit ({ source, markers } : Noted S)).run s =
      ((passed.1.1, passed.1.2.1,
        { source := passed.1.2.2
          markers := markers ++
            List.replicate (processor.askedFor limit source) processor.marker }), passed.2) := by
  induction limit generalizing pass source markers s with
  | zero =>
    have hasked : processor.askedFor 0 source = 0 := rfl
    simp only [hasked, List.replicate_zero, List.append_nil]
    rfl
  | succ limit ih =>
    obtain ⟨hsource, hempty, _⟩ := processPass_spec processor filer source s
    have hnoted : (processor.processPass filer ({ source, markers } : Noted S)).run s =
        let passed := (processor.processPass filer source).run s
        ((passed.1.1, passed.1.2.1,
          { source := passed.1.2.2, markers := markers ++ [processor.marker] }), passed.2) := rfl
    rcases hrun : (processor.processPass filer source).run s with ⟨⟨report, events, after⟩, u⟩
    rw [hrun] at hsource hempty hnoted
    dsimp only at hsource hempty hnoted
    simp only [runPasses, run_bind, hrun, hnoted]
    cases hbatch : (Discovery.find source processor.marker).1.isEmpty with
    | true =>
      rw [processor.askedFor_succ_of_isEmpty _ hbatch]
      simp only [hempty, hbatch, if_true]
      rfl
    | false =>
      rw [processor.askedFor_succ_of_not_isEmpty _ hbatch, ← hsource, List.replicate_succ]
      simp only [hempty, hbatch, Bool.false_eq_true, if_false, run_bind, run_pure, ih,
        List.append_assoc, List.singleton_append]

/-- Whether the source has more does not matter to the passes, but at the limit. -/
theorem runPasses_answering {other : S → String → Bool} (pass limit : Nat) (source : S) (s : σ)
    (h : (processor.leadingBatches limit source).length = limit →
      other (processor.sourceAfter source limit) processor.marker =
        Discovery.hasPending (processor.sourceAfter source limit) processor.marker) :
    (@runPasses (StateM σ) _ S (.answering other) processor filer pass limit source).run s =
      (processor.runPasses filer pass limit source).run s := by
  induction limit generalizing pass source s with
  | zero =>
    have hsame : other source processor.marker = Discovery.hasPending source processor.marker :=
      h rfl
    exact congrArg (fun pending : Bool =>
      ((({ hitPassLimit := true, pending } : RunReport),
        [if pending then Event.limitReachedPending processor.maxPasses
          else .limitReached processor.maxPasses], source), s)) hsame
  | succ limit ih =>
    obtain ⟨hsource, hempty, _⟩ := processPass_spec processor filer source s
    have hpass : (@processPass (StateM σ) _ S (.answering other) processor filer source).run s =
        (processor.processPass filer source).run s := rfl
    rcases hrun : (processor.processPass filer source).run s with ⟨⟨report, events, after⟩, u⟩
    rw [hrun] at hsource hempty hpass
    dsimp only at hsource hempty
    simp only [runPasses, run_bind, hrun, hpass]
    cases hbatch : (Discovery.find source processor.marker).1.isEmpty with
    | true => simp only [hempty, hbatch, if_true]
    | false =>
      have hrest := ih (pass + 1) after u fun hlength => by
        rw [hsource, ← sourceAfter_succ]
        refine h ?_
        rw [leadingBatches_succ, hbatch, if_neg Bool.false_ne_true, ← hsource, List.length_cons,
          hlength]
      simp only [hempty, hbatch, Bool.false_eq_true, if_false, run_bind, hrest]

end Runs

/-- A run processes the leading batches of its source, no more and no fewer. With a limit of at
least one on its passes, it makes one for each batch before the first empty one, up to the limit,
and each declaration of the batch has an outcome there. It tells whether it reached the limit, and
warns if there the source says that it has more. The source is asked for these batches, for one
more if that is within the limit, and always for the same marker; whether it has more it is asked
only at the limit, since otherwise its answer makes no difference. -/
theorem run_processes_leading_batches [Discovery S] (processor : Processor) (requested : Nat)
    (filer : Filer (StateM σ)) (source : S) (s : σ) :
    let limited := processor.withMaxPasses requested
    let limit := max requested 1
    let run := (limited.runToCompletion filer source).run s
    limited.maxPasses = limit ∧
    limited.RunsThrough limit source run.1.1 run.1.2.1 run.1.2.2 ∧
    (limited.runToCompletion filer ({ source } : Noted S)).run s =
      ((run.1.1, run.1.2.1,
        { source := run.1.2.2
          markers := List.replicate (limited.askedFor limit source) processor.marker }), run.2) ∧
    (∀ other : S → String → Bool,
      ((limited.leadingBatches limit source).length = limit →
        other run.1.2.2 processor.marker = Discovery.hasPending run.1.2.2 processor.marker) →
      (@runToCompletion (StateM σ) _ S (.answering other) limited filer source).run s = run) ∧
    run.1.1.generated = (run.1.1.passes.map PassReport.generated).sum ∧
    run.1.1.skipped = (run.1.1.passes.map PassReport.skipped).sum ∧
    run.1.1.failed = (run.1.1.passes.map PassReport.failed).sum := by
  intro limited limit run
  have hruns : limited.RunsThrough limit source run.1.1 run.1.2.1 run.1.2.2 :=
    runPasses_runsThrough limited filer 1 limit source s
  refine ⟨rfl, hruns, ?_, fun other hother => ?_, ?_, ?_, ?_⟩
  · exact runPasses_noted limited filer 1 limit source [] s
  · refine runPasses_answering limited filer 1 limit source s fun hlength => ?_
    have hasked : limited.askedFor limit source = limit := by
      rw [askedFor, hlength, if_pos rfl]
    rw [hruns.left_eq, hasked] at hother
    exact hother hlength
  · exact run.1.1.count_eq_sum _
  · exact run.1.1.count_eq_sum _
  · exact run.1.1.count_eq_sum _

/-- A source that hands out two copies of a declaration at a time, three times. -/
def threeBatches : Stream where
  template := { qualifiedName := "geo.Point", annotations := ["CustomToString"], fields := [] }
  batch := 2
  calls := some 3

/-- Below the limit a run takes all batches, asks for a fourth one and leaves open whether there are
more. A limit of none counts as one, and is reached with declarations left. -/
theorem run_processes_leading_batches_of_threeBatches :
    let processor : Processor := {}
    let run (requested : Nat) := ((processor.withMaxPasses requested).runToCompletion
      Memory.filer ({ source := threeBatches } : Noted Stream)).run {}
    let closed := (@runToCompletion (StateM Memory) _ Stream (.answering fun _ _ => false)
      (processor.withMaxPasses 5) Memory.filer threeBatches).run {}
    (processor.leadingBatches 5 threeBatches).length = 3 ∧
      (run 5).1.2.2.markers = List.replicate 4 defaultMarker ∧ closed.1.1 = (run 5).1.1 ∧
      (run 5).1.1.hitPassLimit = false ∧
      (run 0).1.2.2.markers = [defaultMarker] ∧ (run 0).1.1.pending = true := by
  intro processor run closed
  have hlength : (processor.leadingBatches 5 threeBatches).length = 3 := by decide +kernel
  have hfirst : (processor.leadingBatches 1 threeBatches).length = 1 := by decide +kernel
  obtain ⟨_, hruns, hnoted, hanswering, _⟩ :=
    run_processes_leading_batches processor 5 Memory.filer threeBatches {}
  obtain ⟨_, hruns', hnoted', _⟩ :=
    run_processes_leading_batches processor 0 Memory.filer threeBatches {}
  have hbelow : ¬(processor.leadingBatches 5 threeBatches).length = 5 := by
    rw [hlength]
    decide
  have hrun : run 5 = _ := hnoted
  have hrun' : run 0 = _ := hnoted'
  refine ⟨hlength, ?_, ?_, ?_, ?_, ?_⟩
  · have hasked : processor.askedFor 5 threeBatches = 4 := by
      rw [askedFor, hlength]
      rfl
    rw [hrun]
    exact congrArg (List.replicate · defaultMarker) hasked
  · have hclosed : closed = _ := hanswering (fun _ _ => false) fun h => absurd h hbelow
    rw [hclosed, hrun]
  · rw [hrun, ← Bool.not_eq_true]
    exact fun h => hbelow (hruns.hitPassLimit_iff.mp h)
  · have hasked : processor.askedFor 1 threeBatches = 1 := by
      rw [askedFor, hfirst]
      rfl
    rw [hrun']
    exact congrArg (List.replicate · defaultMarker) hasked
  · rw [hrun']
    exact hruns'.pending_iff.mpr ⟨hruns'.hitPassLimit_iff.mpr hfirst, rfl⟩

end Processor

end ToStringGen
