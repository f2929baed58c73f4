import Mathlib.Data.List.Basic
import ToStringGen.Filer
import ToStringGen.Proofs.StateM

/-!
# What is asked of a filer

Writing an artifact is a series of exchanges with the filer, in which a write may take
a part of the bytes, be interrupted or fail. Noting every exchange shows that all of
them together come to one of two ends: the whole body was taken and passed on, or the
file was discarded once and the first fault is told.
-/

namespace ToStringGen

open Text (Bytes)

/-- Something that a filer was asked for, and its answer. -/
inductive Exchange where
  | create (typeName : String) (answer : Except GenerationError OpenFile)
  | write (offered : Bytes) (attempt : Attempt)
  | flush (answer : Except Fault Unit)
  | close
  | discard (typeName : String)
  deriving DecidableEq, Repr

namespace Exchange

/-- The bytes that were taken. -/
def accepted : Exchange → Bytes
  | write offered attempt =>
      match attempt.settle with
      | .ok count => offered.take count
      | .error _ => []
  | _ => []

/-- Why the body cannot be written whole: a write failed or took nothing, or passing on failed.
Interruptions are no reason. -/
def fault? : Exchange → Option Fault
  | write _ attempt =>
      match attempt.settle with
      | .ok 0 => some .nothingAccepted
      | .ok (_ + 1) => none
      | .error fault => some fault
  | flush (.error fault) => some fault
  | _ => none

/-- Whether bytes were offered. -/
def isWrite : Exchange → Bool
  | write .. => true
  | _ => false

end Exchange

variable {σ α : Type}

/-- An action whose exchange is noted after those before it. -/
def noting (action : StateM σ α) (exchange : α → Exchange) : StateM (σ × List Exchange) α :=
  fun (s, noted) =>
    let (answer, t) := action.run s
    (answer, t, noted ++ [exchange answer])

/-- A filer whose exchanges are noted. -/
def Filer.observed (filer : Filer (StateM σ)) : Filer (StateM (σ × List Exchange)) where
  create typeName := noting (filer.create typeName) (.create typeName)
  write bytes := noting (filer.write bytes) (.write bytes)
  flush := noting filer.flush .flush
  close := noting filer.close fun _ => .close
  discard typeName := noting (filer.discard typeName) fun _ => .discard typeName

section Observed

variable (filer : Filer (StateM σ)) (s : σ) (noted : List Exchange)

/-- Opening a file is noted with its answer. -/
@[simp] theorem Filer.run_observed_create (typeName : String) :
    (filer.observed.create typeName).run (s, noted) =
      (((filer.create typeName).run s).1, ((filer.create typeName).run s).2,
        noted ++ [.create typeName ((filer.create typeName).run s).1]) := rfl

/-- Every attempt to write is noted. -/
@[simp] theorem Filer.run_observed_write (bytes : Bytes) :
    (filer.observed.write bytes).run (s, noted) =
      (((filer.write bytes).run s).1, ((filer.write bytes).run s).2,
        noted ++ [.write bytes ((filer.write bytes).run s).1]) := rfl

/-- Passing on is noted with its answer. -/
@[simp] theorem Filer.run_observed_flush :
    filer.observed.flush.run (s, noted) =
      ((filer.flush.run s).1, (filer.flush.run s).2,
        noted ++ [.flush (filer.flush.run s).1]) := rfl

/-- Closing is noted. -/
@[simp] theorem Filer.run_observed_close :
    filer.observed.close.run (s, noted) =
      ((), (filer.close.run s).2, noted ++ [.close]) := rfl

/-- Discarding is noted. -/
@[simp] theorem Filer.run_observed_discard (typeName : String) :
    (filer.observed.discard typeName).run (s, noted) =
      (((filer.discard typeName).run s).1, ((filer.discard typeName).run s).2,
        noted ++ [.discard typeName]) := rfl

end Observed

/-- The writes by which bytes are offered until all of them are taken, or until an attempt fails
or takes none, and the result. -/
inductive Offers : Bytes → List Exchange → Except Fault Unit → Prop
  | nothing : Offers [] [] (.ok ())
  | failed {b : UInt8} {rest : Bytes} {attempt : Attempt} {fault : Fault}
      (hsettle : attempt.settle = .error fault) :
      Offers (b :: rest) [.write (b :: rest) attempt] (.error fault)
  | stuck {b : UInt8} {rest : Bytes} {attempt : Attempt} (hsettle : attempt.settle = .ok 0) :
      Offers (b :: rest) [.write (b :: rest) attempt] (.error .nothingAccepted)
  | taken {b : UInt8} {rest : Bytes} {attempt : Attempt} {count : Nat} {writes : List Exchange}
      {result : Except Fault Unit} (hsettle : attempt.settle = .ok (count + 1))
      (hrest : Offers (rest.drop count) writes result) :
      Offers (b :: rest) (.write (b :: rest) attempt :: writes) result

namespace Offers

variable {bytes : Bytes} {writes : List Exchange} {result : Except Fault Unit}

/-- Nothing but writes is asked for. -/
theorem isWrite_of_mem (h : Offers bytes writes result) :
    ∀ exchange ∈ writes, exchange.isWrite = true := by
  induction h with
  | nothing => simp
  | failed _ => simp [Exchange.isWrite]
  | stuck _ => simp [Exchange.isWrite]
  | taken _ _ ih => exact List.forall_mem_cons.mpr ⟨rfl, ih⟩

/-- Whatever else is asked for is not among the writes. -/
theorem not_mem (h : Offers bytes writes result) (exchange : Exchange)
    (hother : exchange.isWrite = false) : exchange ∉ writes := by
  intro hmem
  rw [h.isWrite_of_mem exchange hmem] at hother
  exact Bool.noConfusion hother

/-- What was taken is a front part of the bytes, and all of them if nothing went wrong. -/
theorem accepted_prefix (h : Offers bytes writes result) :
    writes.flatMap Exchange.accepted <+: bytes ∧
      (result = .ok () → writes.flatMap Exchange.accepted = bytes) := by
  induction h with
  | nothing => simp
  | failed hsettle => simp [Exchange.accepted, hsettle]
  | stuck hsettle => simp [Exchange.accepted, hsettle]
  | @taken b rest attempt count writes result hsettle hrest ih =>
    obtain ⟨hfront, hall⟩ := ih
    have hfirst : Exchange.accepted (.write (b :: rest) attempt) = b :: rest.take count := by
      simp [Exchange.accepted, hsettle]
    have hcut : b :: rest = (b :: rest.take count) ++ rest.drop count := by
      rw [List.cons_append, List.take_append_drop]
    rw [List.flatMap_cons, hfirst]
    refine ⟨?_, fun hok => ?_⟩
    · rw [hcut]
      exact (List.prefix_append_right_inj _).mpr hfront
    · rw [hall hok, ← hcut]

/-- The only fault among the exchanges is the one that is told. -/
theorem filterMap_fault? (h : Offers bytes writes result) :
    (result = .ok () → writes.filterMap Exchange.fault? = []) ∧
      ∀ fault, result = .error fault → writes.filterMap Exchange.fault? = [fault] := by
  induction h with
  | nothing => simp
  | failed hsettle => simp [Exchange.fault?, hsettle]
  | stuck hsettle => simp [Exchange.fault?, hsettle]
  | taken hsettle _ ih => rwa [List.filterMap_cons_none (by simp [Exchange.fault?, hsettle])]

end Offers

namespace Filer

/-- Offering bytes until all of them are taken goes as without noting the exchanges, which are
the writes that it takes. -/
theorem run_writeAll_observed (filer : Filer (StateM σ)) (bytes : Bytes) (s : σ)
    (noted : List Exchange) :
    ∃ result t writes, (filer.writeAll bytes).run s = (result, t) ∧
      (filer.observed.writeAll bytes).run (s, noted) = (result, t, noted ++ writes) ∧
      Offers bytes writes result := by
  -- The recursion is on what is left of the bytes after each write.
  induction bytes using writeAll.induct generalizing s noted with
  | case1 => exact ⟨.ok (), s, [], by simp [writeAll], by simp [writeAll], .nothing⟩
  | case2 b rest ih =>
    rcases hattempt : (filer.write (b :: rest)).run s with ⟨attempt, u⟩
    simp only [writeAll, run_bind, run_observed_write, hattempt]
    cases hsettle : attempt.settle with
    | error fault =>
      exact ⟨.error fault, u, [.write (b :: rest) attempt], rfl, rfl, .failed hsettle⟩
    | ok count =>
      cases count with
      | zero =>
        exact ⟨.error .nothingAccepted, u, [.write (b :: rest) attempt], rfl, rfl,
          .stuck hsettle⟩
      | succ count =>
        obtain ⟨result, t, writes, hrun, hobserved, hoffers⟩ :=
          ih count u (noted ++ [.write (b :: rest) attempt])
        refine ⟨result, t, .write (b :: rest) attempt :: writes, hrun, ?_, .taken hsettle hoffers⟩
        rw [List.append_assoc, List.singleton_append] at hobserved
        exact hobserved

end Filer

/-- The exchanges in which an artifact is written, and the result. -/
inductive Filing (artifact : Artifact) : List Exchange → Except GenerationError Unit → Prop
  | refused (failure : GenerationError) :
      Filing artifact [.create artifact.qualifiedName (.error failure)] (.error failure)
  | written {file : OpenFile} {writes : List Exchange}
      (hoffers : Offers (Text.Utf8.encode artifact.body) writes (.ok ())) :
      Filing artifact
        (.create artifact.qualifiedName (.ok file) :: writes ++ [.flush (.ok ()), .close]) (.ok ())
  | unwritten {file : OpenFile} {writes : List Exchange} {cause : Fault}
      (hoffers : Offers (Text.Utf8.encode artifact.body) writes (.error cause)) :
      Filing artifact
        (.create artifact.qualifiedName (.ok file) :: writes ++
          [.close, .discard artifact.qualifiedName])
        (.error (.write file.name cause))
  | unflushed {file : OpenFile} {writes : List Exchange} {cause : Fault}
      (hoffers : Offers (Text.Utf8.encode artifact.body) writes (.ok ())) :
      Filing artifact
        (.create artifact.qualifiedName (.ok file) :: writes ++
          [.flush (.error cause), .close, .discard artifact.qualifiedName])
        (.error (.write file.name cause))

/-- Writing an artifact goes as without noting the exchanges, which come to one of four ends. -/
theorem Filer.run_writeArtifact_observed (filer : Filer (StateM σ)) (artifact : Artifact) (s : σ)
    (noted : List Exchange) :
    ∃ result events t calls, (filer.writeArtifact artifact).run s = ((result, events), t) ∧
      (filer.observed.writeArtifact artifact).run (s, noted) =
        ((result, events), t, noted ++ calls) ∧
      Filing artifact calls result := by
  rcases hcreate : (filer.create artifact.qualifiedName).run s with ⟨answer, u⟩
  simp only [writeArtifact, writeBody, run_bind, run_observed_create, hcreate]
  cases answer with
  | error failure =>
    exact ⟨.error failure, [], u, [.create artifact.qualifiedName (.error failure)], rfl, rfl,
      .refused failure⟩
  | ok file =>
    obtain ⟨result, v, writes, hrun, hobserved, hoffers⟩ :=
      filer.run_writeAll_observed (Text.Utf8.encode artifact.body) u
        (noted ++ [.create artifact.qualifiedName (.ok file)])
    simp only [run_bind, hrun, hobserved]
    cases result with
    | error cause =>
      rcases hclose : filer.close.run v with ⟨⟨⟩, w⟩
      rcases hdiscard : (filer.discard artifact.qualifiedName).run w with ⟨removals, x⟩
      refine ⟨.error (.write file.name cause), file.events ++ removals, x,
        .create artifact.qualifiedName (.ok file) :: writes ++
          [.close, .discard artifact.qualifiedName], ?_, ?_, .unwritten hoffers⟩
      · simp [hclose, hdiscard]
      · simp [hclose, hdiscard]
    | ok =>
      rcases hflush : filer.flush.run v with ⟨answer, w⟩
      rcases hclose : filer.close.run w with ⟨⟨⟩, x⟩
      simp only [run_observed_flush, hflush]
      cases answer with
      | error cause =>
        rcases hdiscard : (filer.discard artifact.qualifiedName).run x with ⟨removals, y⟩
        refine ⟨.error (.write file.name cause), file.events ++ removals, y,
          .create artifact.qualifiedName (.ok file) :: writes ++
            [.flush (.error cause), .close, .discard artifact.qualifiedName], ?_, ?_,
          .unflushed hoffers⟩
        · simp [hclose, hdiscard]
        · simp [hclose, hdiscard]
      | ok =>
        refine ⟨.ok (), file.events, x,
          .create artifact.qualifiedName (.ok file) :: writes ++ [.flush (.ok ()), .close], ?_, ?_,
          .written hoffers⟩
        · simp [hclose]
        · simp [hclose]

/-- What the exchanges say about the writing of an artifact, from its first one to the result. -/
structure AllOrNothing (artifact : Artifact) (calls : List Exchange)
    (result : Except GenerationError Unit) : Prop where
  /-- The file is opened before anything else, and once. -/
  opened : ∃ answer rest, calls = .create artifact.qualifiedName answer :: rest ∧
    ∀ typeName again, .create typeName again ∉ rest
  /-- If that is refused, the refusal is the result and nothing else is asked for. -/
  refused : ∀ failure, .create artifact.qualifiedName (.error failure) ∈ calls →
    result = .error failure ∧ calls = [.create artifact.qualifiedName (.error failure)]
  /-- What was accepted is a front part of the body. -/
  accepted : calls.flatMap Exchange.accepted <+: Text.Utf8.encode artifact.body
  /-- Nothing is passed on before the whole body was accepted. -/
  flushed : ∀ front answer rest, calls = front ++ .flush answer :: rest →
    front.flatMap Exchange.accepted = Text.Utf8.encode artifact.body
  /-- The artifact counts as written exactly when the body was accepted and passed on. -/
  ok_iff : result = .ok () ↔
    calls.flatMap Exchange.accepted = Text.Utf8.encode artifact.body ∧ .flush (.ok ()) ∈ calls
  /-- What was written is kept. -/
  kept : result = .ok () → ∀ typeName, .discard typeName ∉ calls
  /-- What was opened but not written is closed and then discarded, once, and the failure names
  the file and the only fault that there was. -/
  discarded : ∀ file failure, .create artifact.qualifiedName (.ok file) ∈ calls →
    result = .error failure →
      (∃ front, calls = front ++ [.close, .discard artifact.qualifiedName] ∧
        .close ∉ front ∧ ∀ typeName, .discard typeName ∉ front) ∧
      ∃ cause, calls.filterMap Exchange.fault? = [cause] ∧ failure = .write file.name cause

namespace Filing

variable {artifact : Artifact} {calls : List Exchange} {result : Except GenerationError Unit}

/-- The file is opened first and only once. -/
theorem opened (h : Filing artifact calls result) :
    ∃ answer rest, calls = .create artifact.qualifiedName answer :: rest ∧
      ∀ typeName again, .create typeName again ∉ rest := by
  cases h with
  | refused failure => exact ⟨_, _, rfl, by simp⟩
  | written hoffers =>
    exact ⟨_, _, rfl, fun typeName again => by
      simp [hoffers.not_mem (.create typeName again) rfl]⟩
  | unwritten hoffers =>
    exact ⟨_, _, rfl, fun typeName again => by
      simp [hoffers.not_mem (.create typeName again) rfl]⟩
  | unflushed hoffers =>
    exact ⟨_, _, rfl, fun typeName again => by
      simp [hoffers.not_mem (.create typeName again) rfl]⟩

/-- The answer to opening the file is the first of the exchanges. -/
theorem head?_eq_of_mem (h : Filing artifact calls result) {typeName : String}
    {answer : Except GenerationError OpenFile} (hmem : .create typeName answer ∈ calls) :
    calls.head? = some (.create typeName answer) := by
  obtain ⟨first, rest, rfl, hnone⟩ := h.opened
  rcases List.mem_cons.mp hmem with heq | hmem
  · rw [heq, List.head?_cons]
  · exact absurd hmem (hnone typeName answer)

/-- A refusal to open the file ends the matter. -/
theorem refusal (h : Filing artifact calls result) {failure : GenerationError}
    (hmem : .create artifact.qualifiedName (.error failure) ∈ calls) :
    result = .error failure ∧ calls = [.create artifact.qualifiedName (.error failure)] := by
  have hhead := h.head?_eq_of_mem hmem
  cases h with
  | refused other =>
    simp only [List.head?_cons, Option.some.injEq, Exchange.create.injEq, Except.error.injEq,
      true_and] at hhead
    rw [hhead]
    exact ⟨rfl, rfl⟩
  | written hoffers => simp at hhead
  | unwritten hoffers => simp at hhead
  | unflushed hoffers => simp at hhead

/-- What was accepted comes from the writes alone. -/
theorem accepted_prefix (h : Filing artifact calls result) :
    calls.flatMap Exchange.accepted <+: Text.Utf8.encode artifact.body := by
  cases h with
  | refused failure => simp [Exchange.accepted]
  | written hoffers => simpa [Exchange.accepted] using hoffers.accepted_prefix.1
  | unwritten hoffers => simpa [Exchange.accepted] using hoffers.accepted_prefix.1
  | unflushed hoffers => simpa [Exchange.accepted] using hoffers.accepted_prefix.1

/-- The body is passed on only after all of it was accepted. -/
theorem accepted_before_flush (h : Filing artifact calls result) {front rest : List Exchange}
    {answer : Except Fault Unit} (hcalls : calls = front ++ .flush answer :: rest) :
    front.flatMap Exchange.accepted = Text.Utf8.encode artifact.body := by
  have hmem : .flush answer ∈ calls := by simp [hcalls]
  cases h with
  | refused failure => simp at hmem
  | @written file writes hoffers =>
    have hnone := hoffers.not_mem (.flush answer) rfl
    obtain ⟨rfl, _⟩ := (List.append_cons_inj_of_notMem (by simp [hnone]) (by simp)).mp hcalls
    simpa [Exchange.accepted] using hoffers.accepted_prefix.2 rfl
  | unwritten hoffers =>
    have hnone := hoffers.not_mem (.flush answer) rfl
    simp [hnone] at hmem
  | unflushed hoffers =>
    have hnone := hoffers.not_mem (.flush answer) rfl
    obtain ⟨rfl, _⟩ := (List.append_cons_inj_of_notMem (by simp [hnone]) (by simp)).mp hcalls
    simpa [Exchange.accepted] using hoffers.accepted_prefix.2 rfl

/-- The artifact counts as written exactly when its body was accepted and passed on. -/
theorem result_eq_ok_iff (h : Filing artifact calls result) :
    result = .ok () ↔
      calls.flatMap Exchange.accepted = Text.Utf8.encode artifact.body ∧
        .flush (.ok ()) ∈ calls := by
  cases h with
  | refused failure => simp
  | written hoffers =>
    have hall := hoffers.accepted_prefix.2 rfl
    simp [Exchange.accepted, hall]
  | unwritten hoffers => simp [hoffers.not_mem (.flush (.ok ())) rfl]
  | unflushed hoffers => simp [hoffers.not_mem (.flush (.ok ())) rfl]

/-- What was written is not discarded. -/
theorem not_discarded (h : Filing artifact calls result) (hok : result = .ok ())
    (typeName : String) : .discard typeName ∉ calls := by
  cases h with
  | written hoffers => simp [hoffers.not_mem (.discard typeName) rfl]
  | _ => cases hok

/-- What was opened but not written is closed and then discarded, and the failure names the file
and the only fault that there was. -/
theorem discarded (h : Filing artifact calls result) {file : OpenFile}
    {failure : GenerationError} (hmem : .create artifact.qualifiedName (.ok file) ∈ calls)
    (hresult : result = .error failure) :
    (∃ front, calls = front ++ [.close, .discard artifact.qualifiedName] ∧
      .close ∉ front ∧ ∀ typeName, .discard typeName ∉ front) ∧
      ∃ cause, calls.filterMap Exchange.fault? = [cause] ∧ failure = .write file.name cause := by
  have hhead := h.head?_eq_of_mem hmem
  cases h with
  | refused other => simp at hhead
  | written hoffers => cases hresult
  | @unwritten opened writes cause hoffers =>
    obtain rfl : opened = file := by simpa using hhead
    refine ⟨⟨.create artifact.qualifiedName (.ok opened) :: writes, rfl, ?_, fun typeName => ?_⟩,
      cause, ?_, (Except.error.inj hresult).symm⟩
    · simp [hoffers.not_mem .close rfl]
    · simp [hoffers.not_mem (.discard typeName) rfl]
    · simp [List.filterMap_cons, Exchange.fault?, hoffers.filterMap_fault?.2 cause rfl]
  | @unflushed opened writes cause hoffers =>
    obtain rfl : opened = file := by simpa using hhead
    refine ⟨⟨.create artifact.qualifiedName (.ok opened) :: writes ++ [.flush (.error cause)],
      by simp, ?_, fun typeName => ?_⟩, cause, ?_, (Except.error.inj hresult).symm⟩
    · simp [hoffers.not_mem .close rfl]
    · simp [hoffers.not_mem (.discard typeName) rfl]
    · simp [List.filterMap_cons, Exchange.fault?, hoffers.filterMap_fault?.1 rfl]

/-- Whichever way the writing of an artifact ends, it is all or nothing. -/
theorem allOrNothing (h : Filing artifact calls result) : AllOrNothing artifact calls result where
  opened := h.opened
  refused _ hmem := h.refusal hmem
  accepted := h.accepted_prefix
  flushed _ _ _ hcalls := h.accepted_before_flush hcalls
  ok_iff := h.result_eq_ok_iff
  kept := h.not_discarded
  discarded _ _ hmem hresult := h.discarded hmem hresult

end Filing

/-- Writing an artifact is all or nothing, however the filer behaves: the exchanges that are noted
while it is written are those that take place anyway. -/
theorem Filer.writeArtifact_isAllOrNothing (filer : Filer (StateM σ)) (artifact : Artifact)
    (s : σ) :
    ∃ result events t calls, (filer.writeArtifact artifact).run s = ((result, events), t) ∧
      (filer.observed.writeArtifact artifact).run (s, []) = ((result, events), t, calls) ∧
      AllOrNothing artifact calls result := by
  obtain ⟨result, events, t, calls, hrun, hobserved, hfiling⟩ :=
    filer.run_writeArtifact_observed artifact s []
  exact ⟨result, events, t, calls, hrun, hobserved, hfiling.allOrNothing⟩

end ToStringGen
