import ToStringGen.Proofs.Processing.Passes
import ToStringGen.Proofs.Processing.Stores

/-!
# Processing again

Processing the same declarations once more, in whatever batches, has the same outcomes
and leaves memory as it was, although a class that occurs several times goes through its
earlier contents again on the way.
-/

namespace ToStringGen

open Log (Event)

namespace Memory

/-- A step on memory either decides a part of it, whatever it was, or leaves that part alone. -/
def Settles {α : Type} (step : Memory → Memory) (part : Memory → α) : Prop :=
  (∃ value, ∀ memory, part (step memory) = value) ∨ ∀ memory, part (step memory) = part memory

/-- A step that settles a part comes to nothing more for it when it is made again. -/
theorem Settles.again {α : Type} {step : Memory → Memory} {part : Memory → α}
    (h : Settles step part) (memory : Memory) : part (step (step memory)) = part (step memory) := by
  rcases h with ⟨value, hdecided⟩ | hsame
  · rw [hdecided, hdecided]
  · rw [hsame]

/-- What each class settles, all of them together settle. -/
theorem settles_putAll {α : Type} {part : Memory → α}
    (hput : ∀ declaration, Settles (put · declaration) part) (declarations : List TypeDeclaration) :
    Settles (putAll · declarations) part := by
  induction declarations with
  | nil => exact Or.inr fun _ => rfl
  | cons declaration rest ih =>
    rcases ih with ⟨value, hdecided⟩ | hsame
    · exact Or.inl ⟨value, fun memory => hdecided (memory.put declaration)⟩
    · rcases hput declaration with ⟨value, hdecided⟩ | hunchanged
      · left
        refine ⟨value, fun memory => ?_⟩
        exact (hsame (memory.put declaration)).trans (hdecided memory)
      · right
        intro memory
        exact (hsame (memory.put declaration)).trans (hunchanged memory)

/-- A class settles the entry of every name: its own it replaces. -/
theorem settles_entry (name : String) (declaration : TypeDeclaration) :
    Settles (put · declaration) (entry name) := by
  simp only [Settles, entry_put]
  by_cases hnamed : declaration.Generates ∧ declaration.className = name
  · exact Or.inl ⟨_, fun _ => if_pos hnamed⟩
  · exact Or.inr fun _ => if_neg hnamed

/-- A class settles which file is being written: none, once it was taken in. -/
theorem settles_current (declaration : TypeDeclaration) :
    Settles (put · declaration) Memory.current := by
  by_cases hgenerates : declaration.Generates
  · exact Or.inl ⟨none, fun _ => congrArg Memory.current (if_pos hgenerates)⟩
  · exact Or.inr fun _ => congrArg Memory.current (if_neg hgenerates)

/-- Classes that were taken in are all there, so that taking them in again changes nothing. -/
theorem putAll_putAll (memory : Memory) (declarations : List TypeDeclaration) :
    (memory.putAll declarations).putAll declarations = memory.putAll declarations := by
  have hfiles : ((memory.putAll declarations).putAll declarations).files =
      (memory.putAll declarations).files := by
    apply Std.ExtTreeMap.ext_getElem?
    intro name
    exact (settles_putAll (settles_entry name) declarations).again memory
  exact congrArg₂ Memory.mk hfiles ((settles_putAll settles_current declarations).again memory)

end Memory

/-- What processing declarations comes to, in one pass or several. -/
structure Processed (σ : Type) where
  outcomes : List Outcome
  /-- What is reported on the way, in order. -/
  diagnostics : List Diagnostic
  /-- The state that is left. -/
  final : σ

namespace Processor

section Presenting

variable {m : Type → Type} [Monad m] {σ S : Type} [Discovery S]

/-- Runs a number of passes, whether or not they have something to do. -/
def passes (processor : Processor) (filer : Filer m) :
    Nat → S → m (List PassReport × List Event × S)
  | 0, source => return ([], [], source)
  | calls + 1, source => do
      let (report, events, source) ← processor.processPass filer source
      let (reports, more, source) ← passes processor filer calls source
      return (report :: reports, events ++ more, source)

/-- What a number of passes from a state come to. -/
def inPasses (processor : Processor) (filer : Filer (StateM σ)) (calls : Nat) (source : S)
    (s : σ) : Processed σ :=
  let passed := (processor.passes filer calls source).run s
  { outcomes := passed.1.1.flatMap PassReport.outcomes
    diagnostics := diagnosticsOf passed.1.2.1
    final := passed.2 }

/-- What a run to completion from a state comes to. -/
def toCompletion (processor : Processor) (filer : Filer (StateM σ)) (source : S) (s : σ) :
    Processed σ :=
  let run := (processor.runToCompletion filer source).run s
  { outcomes := run.1.1.outcomes
    diagnostics := diagnosticsOf run.1.2.1
    final := run.2 }

/-- Declarations are presented to a processor by some source in some batches, either to passes that
are called for one by one or to a run to completion. -/
inductive Presents (filer : Filer (StateM σ)) (declarations : List TypeDeclaration) :
    (σ → Processed σ) → Prop
  | inPasses {S : Type} [Discovery S] (processor : Processor) (calls : Nat) (source : S)
      (h : (List.range calls).flatMap (processor.batch source) = declarations) :
      Presents filer declarations (processor.inPasses filer calls source)
  | toCompletion {S : Type} [Discovery S] (processor : Processor) (source : S)
      (h : processor.discovered processor.maxPasses source = declarations) :
      Presents filer declarations (processor.toCompletion filer source)

/-- Passes treat what the source hands out to each of them. -/
theorem passes_follows (processor : Processor) (filer : Filer (StateM σ)) (calls : Nat)
    (source : S) (s : σ) :
    let passed := (processor.passes filer calls source).run s
    ∃ treatments, Follows filer s treatments
      ((List.range calls).flatMap (processor.batch source))
      (passed.1.1.flatMap PassReport.outcomes) (diagnosticsOf passed.1.2.1) passed.2 := by
  induction calls generalizing source s with
  | zero => exact ⟨[], .nil filer s⟩
  | succ calls ih =>
    obtain ⟨hsource, treatments, hpass⟩ := processPass_follows filer processor source s
    rcases hrun : (processor.processPass filer source).run s with ⟨⟨report, events, after⟩, u⟩
    rw [hrun] at hsource hpass
    have hafter : after = (Discovery.find source processor.marker).2 := hsource
    obtain ⟨more, hrest⟩ := ih after u
    have hbatches : (List.range (calls + 1)).flatMap (processor.batch source) =
        (Discovery.find source processor.marker).1 ++
          (List.range calls).flatMap (processor.batch after) := by
      rw [hafter, List.range_succ_eq_map, List.flatMap_cons, List.flatMap_map]
      rfl
    rw [hbatches, passes]
    simp only [run_bind, run_pure, hrun, List.flatMap_cons, diagnosticsOf_append]
    exact ⟨treatments ++ more, hpass.append hrest⟩

/-- However declarations are presented, their treatments follow in order. -/
theorem Presents.follows {filer : Filer (StateM σ)} {declarations : List TypeDeclaration}
    {process : σ → Processed σ} (h : Presents filer declarations process) (s : σ) :
    ∃ treatments, Follows filer s treatments declarations (process s).outcomes
      (process s).diagnostics (process s).final := by
  cases h with
  | inPasses processor calls source h =>
    rw [← h]
    exact passes_follows processor filer calls source s
  | toCompletion processor source h =>
    rw [← h]
    exact runToCompletion_follows filer processor source s

end Presenting

end Processor

/-- Resetting a pool after it was asked leaves it as it was before anything was handed out. -/
theorem Pool.reset_find (pool : Pool) (marker : String) :
    (pool.find marker).2.reset = pool.reset := by
  rcases hselect : select marker pool.declarations pool.delivered with ⟨found, delivered⟩
  rw [find, hselect]
  rfl

namespace Processor

/-- Declarations were processed twice, the second time from what the first time had left, and the
second time changed nothing. -/
structure Repeats (declarations : List TypeDeclaration) (before : Memory)
    (once again : Processed Memory) : Prop where
  outcomes_eq : again.outcomes = once.outcomes
  diagnostics_eq : again.diagnostics = once.diagnostics
  final_eq : again.final = once.final
  /-- Under the name of a class is the source for the last declaration that generates it. -/
  entry_of_last : ∀ earlier declaration later, declarations = earlier ++ declaration :: later →
    declaration.Generates →
    (∀ other ∈ later, other.Generates → other.className ≠ declaration.className) →
    once.final.entry declaration.className =
      some (Text.Utf8.encode declaration.classArtifact.body)
  /-- What is under the name of no class is untouched. -/
  entry_of_other : ∀ name,
    (∀ declaration ∈ declarations, declaration.Generates → declaration.className ≠ name) →
    once.final.entry name = before.entry name

/-- A run over a pool reports what becomes of the declarations that the pool hands out. -/
theorem report_eq (processor : Processor) (pool : Pool) (s : Memory) :
    ((processor.runToCompletion Memory.filer pool).run s).1.1 =
      processor.reportOf ((pool.find processor.marker).1.map fun declaration =>
        declaration.treatment.outcome) := by
  obtain ⟨events, t, hrun, _⟩ :=
    (Memory.stores (pool.find processor.marker).1).run_processAll (rfl : s = s)
  rw [runToCompletion_eq, run_map, hrun]

/-- A run over a pool leaves a pool that can be reset to what it was at first. -/
theorem reset_left (processor : Processor) (declared : List TypeDeclaration) (s : Memory) :
    ((processor.runToCompletion Memory.filer (Pool.ofList declared)).run s).1.2.2.reset =
      Pool.ofList declared := by
  rw [runToCompletion_eq, run_map]
  exact Pool.reset_find (Pool.ofList declared) processor.marker

/-- Two presentations of the same declarations have the same outcomes, and the second leaves what
the first has left. -/
theorem Presents.repeats {declarations : List TypeDeclaration}
    {first second : Memory → Processed Memory}
    (hfirst : Presents Memory.filer declarations first)
    (hsecond : Presents Memory.filer declarations second) (before : Memory) :
    Repeats declarations before (first before) (second (first before).final) := by
  obtain ⟨_, hfollows⟩ := hfirst.follows before
  obtain ⟨houtcomes, hdiagnostics, hfinal⟩ :=
    (Memory.stores declarations).eq_of_follows hfollows rfl
  obtain ⟨_, hfollowsAgain⟩ := hsecond.follows (first before).final
  obtain ⟨houtcomesAgain, hdiagnosticsAgain, hfinalAgain⟩ :=
    (Memory.stores declarations).eq_of_follows hfollowsAgain rfl
  constructor
  · rw [houtcomesAgain, houtcomes]
  · rw [hdiagnosticsAgain, hdiagnostics]
  · rw [← hfinalAgain, ← hfinal, Memory.putAll_putAll]
  · intro earlier declaration later hsplit hgenerates hlast
    rw [← hfinal, hsplit]
    exact Memory.entry_putAll_of_last hgenerates hlast before
  · intro name hother
    rw [← hfinal]
    exact Memory.entry_putAll_of_other hother before

/-- Processing declarations again changes nothing, in whatever batches they are presented the first
time and the second. In particular a run over a pool, once the pool is reset, is repeated with the
same report. -/
theorem processing_again_changes_nothing {declarations : List TypeDeclaration}
    {first second : Memory → Processed Memory}
    (hfirst : Presents Memory.filer declarations first)
    (hsecond : Presents Memory.filer declarations second) (before : Memory) :
    Repeats declarations before (first before) (second (first before).final) ∧
      ∀ (processor : Processor) (declared : List TypeDeclaration),
        let once := (processor.runToCompletion Memory.filer (Pool.ofList declared)).run before
        let again := (processor.runToCompletion Memory.filer once.1.2.2.reset).run once.2
        again.1.1 = once.1.1 ∧ diagnosticsOf again.1.2.1 = diagnosticsOf once.1.2.1 ∧
          again.2 = once.2 := by
  refine ⟨hfirst.repeats hsecond before, ?_⟩
  intro processor declared once again
  have hreset : once.1.2.2.reset = Pool.ofList declared := reset_left processor declared before
  have hpresents : Presents Memory.filer _
      (processor.toCompletion Memory.filer (Pool.ofList declared)) := .toCompletion _ _ rfl
  have hrepeats := hpresents.repeats hpresents before
  have hagain : again =
      (processor.runToCompletion Memory.filer (Pool.ofList declared)).run once.2 := by
    rw [← hreset]
  rw [hagain]
  refine ⟨?_, hrepeats.diagnostics_eq, hrepeats.final_eq⟩
  exact (report_eq processor _ once.2).trans (report_eq processor _ before).symm

/-- Batches that are handed out in their order, whatever they are asked for. -/
structure Queue where
  batches : List (List TypeDeclaration)

instance : Discovery Queue where
  find queue _ := (queue.batches.headD [], { batches := queue.batches.tail })

/-- A class that changes while it is processed: it gets another field and then a `toString()` of
its own. -/
def growingCircle : List TypeDeclaration :=
  [circle, circle.withField { name := "center" }, circle.withMethod "toString"]

/-- The class in batches, one of them empty. -/
def growingBatches : Queue where
  batches := [[circle], [], [circle.withField { name := "center" }, circle.withMethod "toString"]]

/-- The class is processed in three passes and then in a run to completion. -/
theorem processing_again_changes_nothing_growingCircle :
    let first : Memory → Processed Memory := inPasses {} Memory.filer 3 growingBatches
    let second : Memory → Processed Memory :=
      toCompletion {} Memory.filer (Queue.mk [growingCircle])
    let before := Memory.create "geo.CircleWithToString" {}
    Presents Memory.filer growingCircle first ∧ Presents Memory.filer growingCircle second ∧
      Repeats growingCircle before (first before) (second (first before).final) := by
  intro first second before
  have hfirst : Presents Memory.filer growingCircle first := .inPasses {} 3 growingBatches rfl
  have hsecond : Presents Memory.filer growingCircle second :=
    .toCompletion {} (Queue.mk [growingCircle]) rfl
  exact ⟨hfirst, hsecond, (processing_again_changes_nothing hfirst hsecond before).1⟩

end Processor

end ToStringGen
