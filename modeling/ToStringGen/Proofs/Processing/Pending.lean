import ToStringGen.Proofs.Processing.Delivery
import ToStringGen.Proofs.Processing.Passes

/-!
# What is pending

A pool says whether something is pending by looking through its declarations, and hands
out what is new by another scan, which notes the names on its way. In every state that
calls can bring a pool to, the one scan foretells the other. A run over a pool therefore
needs a single pass, and nothing is pending at its end, until something is added to the
pool or the pool is reset.
-/

namespace ToStringGen

variable {σ : Type}

namespace Pool

/-- Whether a call asks for an answer and no more. -/
def Call.isQuestion : Call → Bool
  | hasPending _ => true
  | _ => false

/-- Whether a call can make something new: it adds a declaration, or the pool forgets what it has
handed out. -/
def Call.renews : Call → Bool
  | push _ => true
  | reset => true
  | _ => false

/-- What a pool that calls have been made to says about pending declarations, and what comes of
it. -/
structure TellsPending (declarations : List TypeDeclaration) (calls : List Call) : Prop where
  /-- Something is pending for a marker when the next call for it hands something out. -/
  hasPending_iff : ∀ marker, ((ofList declarations).after calls).hasPending marker = true ↔
    (((ofList declarations).after calls).find marker).1 ≠ []
  /-- However often it was asked before, all later calls are answered as if it had not been. -/
  asking : ∀ later, ((ofList declarations).after calls).log later =
    ((ofList declarations).after (calls.filter fun call => !call.isQuestion)).log later
  /-- Nothing is pending for a marker that has just been asked for. -/
  hasPending_find : ∀ marker,
    (((ofList declarations).after calls).find marker).2.hasPending marker = false

variable {pool : Pool} {marker : String} {call : Call}

/-- Something is pending when the next call hands something out. -/
theorem hasPending_eq_true_iff :
    pool.hasPending marker = true ↔ (pool.find marker).1 ≠ [] := by
  have hscan := any_eq_not_isEmpty_select marker pool.declarations pool.delivered
  change pool.hasPending marker = !(pool.find marker).1.isEmpty at hscan
  rw [hscan, Bool.not_eq_true', List.isEmpty_eq_false_iff]

/-- The questions among calls make no difference to the pool that the calls leave. -/
theorem after_filter_isQuestion (pool : Pool) (calls : List Call) :
    pool.after (calls.filter fun call => !call.isQuestion) = pool.after calls := by
  induction calls generalizing pool with
  | nil => rfl
  | cons call calls ih =>
    cases call with
    | hasPending marker => exact ih pool
    | find marker => exact ih _
    | push declaration => exact ih _
    | reset => exact ih _

/-- As long as nothing is added and nothing is forgotten, nothing becomes pending: a call for
another marker can only hand out more. -/
theorem hasPending_answer (h : pool.hasPending marker = false) (hcall : call.renews = false) :
    (pool.answer call).2.hasPending marker = false := by
  cases call with
  | find other =>
    rw [hasPending_eq_false_iff] at h ⊢
    exact fun declaration hmem hannotated =>
      mem_select_snd.mpr (Or.inl (h declaration hmem hannotated))
  | hasPending other => exact h
  | push declaration => cases hcall
  | reset => cases hcall

/-- Any number of calls that add nothing and have nothing forgotten leave nothing pending. -/
theorem hasPending_after {calls : List Call} (h : pool.hasPending marker = false)
    (hcalls : ∀ call ∈ calls, call.renews = false) :
    (pool.after calls).hasPending marker = false := by
  induction calls generalizing pool with
  | nil => exact h
  | cons call calls ih =>
    obtain ⟨hcall, hcalls⟩ := List.forall_mem_cons.mp hcalls
    exact ih (hasPending_answer h hcall) hcalls

/-- After any calls a pool tells what is pending. -/
theorem tellsPending (declarations : List TypeDeclaration) (calls : List Call) :
    TellsPending declarations calls where
  hasPending_iff _ := hasPending_eq_true_iff
  asking later := by rw [after_filter_isQuestion]
  hasPending_find marker := hasPending_find _ marker

end Pool

namespace Processor

/-- What a run over a pool comes to: its report and the pool that it leaves. -/
structure Exhausts (processor : Processor) (pool : Pool) (report : RunReport) (left : Pool) :
    Prop where
  /-- The declarations that the pool had to hand out are processed, in a single pass at most. -/
  names_eq : report.outcomes.map Outcome.typeName =
    (pool.find processor.marker).1.map TypeDeclaration.qualifiedName
  length_passes : report.passes.length ≤ 1
  hasPending_left : left.hasPending processor.marker = false
  pending_eq : report.pending = false
  /-- Only a limit of one pass is ever reached, and only by a pass with something to do. -/
  hitPassLimit_iff : report.hitPassLimit = true ↔
    processor.maxPasses = 1 ∧ (pool.find processor.marker).1 ≠ []
  /-- Unless something is added to the pool or the pool is reset, another run has nothing to report
  and leaves everything as it is. -/
  again : ∀ calls : List Pool.Call, (∀ call ∈ calls, call.renews = false) →
    ∀ {τ : Type} (filer : Filer (StateM τ)) (t : τ),
      let run := (processor.runToCompletion filer (left.after calls)).run t
      run.1.1 = {} ∧ run.1.2.2 = left.after calls ∧ run.2 = t

/-- A run over a pool in which nothing is pending has nothing to report and changes nothing. -/
theorem runToCompletion_of_hasPending_eq_false (processor : Processor)
    (filer : Filer (StateM σ)) {pool : Pool} (h : pool.hasPending processor.marker = false)
    (s : σ) :
    (processor.runToCompletion filer pool).run s =
      (({}, [.declarationsFound processor.marker 0], pool), s) := by
  rw [runToCompletion_eq, Pool.find_of_hasPending_eq_false h]
  rfl

/-- A run over a pool makes one pass at most, whatever the limit. -/
theorem length_passes_reportOf (processor : Processor) (outcomes : List Outcome) :
    (processor.reportOf outcomes).passes.length ≤ 1 := by
  unfold reportOf
  split
  · exact Nat.zero_le 1
  · exact Nat.le_refl 1

/-- A run over a pool reaches a limit of one pass, if there is an outcome, and no other limit. -/
theorem hitPassLimit_reportOf (processor : Processor) (outcomes : List Outcome) :
    (processor.reportOf outcomes).hitPassLimit = true ↔
      processor.maxPasses = 1 ∧ outcomes ≠ [] := by
  cases outcomes <;> simp [reportOf]

/-- A run over a pool exhausts it. -/
theorem runToCompletion_exhausts (processor : Processor) (filer : Filer (StateM σ)) (pool : Pool)
    (s : σ) :
    let run := (processor.runToCompletion filer pool).run s
    processor.Exhausts pool run.1.1 run.1.2.2 := by
  intro run
  obtain ⟨treatments, hfollows⟩ :=
    processAll_follows filer (pool.find processor.marker).1 s
  have hnames := hfollows.course.map_typeName
  rw [← hfollows.outcomes_eq, hfollows.declarations_eq] at hnames
  have hempty := hfollows.isEmpty_eq
  rcases hall : (processAll filer (pool.find processor.marker).1).run s with
    ⟨⟨outcomes, events⟩, t⟩
  rw [hall] at hnames hempty
  have hreport : run.1.1 = processor.reportOf outcomes := by
    simp only [run, runToCompletion_eq, run_map, hall]
  have hleft : run.1.2.2 = (pool.find processor.marker).2 := by
    simp only [run, runToCompletion_eq, run_map]
  have hdrained := Pool.hasPending_find pool processor.marker
  rw [hreport, hleft]
  refine ⟨?_, length_passes_reportOf processor outcomes, hdrained, pending_reportOf _ _, ?_, ?_⟩
  · rw [outcomes_reportOf, hnames]
  · rw [hitPassLimit_reportOf, ← List.isEmpty_eq_false_iff, hempty, List.isEmpty_eq_false_iff]
  · intro calls hcalls τ filer t
    rw [runToCompletion_of_hasPending_eq_false processor filer
      (Pool.hasPending_after hdrained hcalls)]
    exact ⟨rfl, rfl, rfl⟩

end Processor

/-- A pool tells the truth about what is pending, whatever it has been asked and told before: it
says that something is pending for a marker exactly when the next call for the marker hands
something out, and being asked makes no difference to it. A run over it makes a single pass at
most, after which nothing is pending, reaches its limit only if one pass is allowed and has
something to do, and is followed by runs with nothing to do until something is added or the pool
is reset. -/
theorem Pool.pending_foretells_find (declarations : List TypeDeclaration) (calls : List Call) :
    TellsPending declarations calls ∧
      ∀ (processor : Processor) {σ : Type} (filer : Filer (StateM σ)) (s : σ),
        let pool := (ofList declarations).after calls
        let run := (processor.runToCompletion filer pool).run s
        processor.Exhausts pool run.1.1 run.1.2.2 :=
  ⟨tellsPending declarations calls, fun processor _ filer s =>
    processor.runToCompletion_exhausts filer _ s⟩

end ToStringGen
