import ToStringGen.Filer.Directory
import ToStringGen.Proofs.Filer.Register
import ToStringGen.Proofs.Filer.Session
import ToStringGen.Proofs.Java.Placement
import ToStringGen.Proofs.StateM

/-!
# Steps asked of a destination

A destination may be asked to write artifacts, to take files in sessions and to
discard files, in any order. The order in which files were created since they were
last discarded follows from the steps alone, and a list of written files can keep it.
-/

namespace ToStringGen

open Java Java.QualifiedName
open Log (FilingEvent)

/-- One thing that is asked of a destination. -/
inductive Step where
  | write (artifact : Artifact)
  | session (typeName : String) (strokes : List Stroke)
  | discard (typeName : String)
  deriving DecidableEq, Repr

namespace Step

/-- The type whose file a step is about. -/
def typeName : Step → String
  | write artifact => artifact.qualifiedName
  | session typeName _ => typeName
  | discard typeName => typeName

/-- Whether a step takes a file away. All others create one. -/
def discards : Step → Bool
  | discard _ => true
  | _ => false

end Step

namespace Filer

variable {m : Type → Type} [Monad m]

/-- Takes a step and tells whether everything about it succeeded. -/
def step (filer : Filer m) : Step → m Bool
  | .write artifact => do
      let (result, _) ← filer.writeArtifact artifact
      return result.isOk
  | .session typeName strokes => do
      match ← filer.session typeName strokes with
      | .error _ => return false
      | .ok (_, results) => return results.all Except.isOk
  | .discard typeName => do
      let events ← filer.discard typeName
      return events.all fun event => event matches .removed _

/-- Takes one step after the other, whether they succeed or not. -/
def steps (filer : Filer m) : List Step → m (List Bool)
  | [] => return []
  | step :: rest => do
      let success ← filer.step step
      let successes ← filer.steps rest
      return success :: successes

/-- A session in which everything was done is a step that succeeds. -/
theorem run_step_session {σ : Type} {filer : Filer (StateM σ)} {typeName : String}
    {strokes : List Stroke} {s t : σ} {file : OpenFile} {count : Nat}
    (h : (filer.session typeName strokes).run s =
      (.ok (file, List.replicate count (.ok ())), t)) :
    (filer.step (.session typeName strokes)).run s = (true, t) := by
  have hall : (List.replicate count (Except.ok () : Except Fault Unit)).all Except.isOk =
      true := by
    refine List.all_eq_true.mpr fun result hmem => ?_
    rw [List.eq_of_mem_replicate hmem]
    rfl
  rw [step, run_bind, h]
  simp only [hall, run_pure]

end Filer

/-- The number of the step that created the file of a type first since it was last discarded, if it
was created since. The history has the latest step first, and the earliest one has number zero. -/
def createdAt (typeName : String) : (history : List Step) → Option Nat
  | [] => none
  | step :: earlier =>
      if step.typeName = typeName then
        if step.discards then none
        else some ((createdAt typeName earlier).getD earlier.length)
      else createdAt typeName earlier

/-- Both files were created, one of them before the other. -/
def CreatedBefore (history : List Step) (typeName other : String) : Prop :=
  ∃ early late, createdAt typeName history = some early ∧ createdAt other history = some late ∧
    early < late

section Order

variable {history : List Step} {typeName : String} {names : List String} {step : Step}

/-- Steps make entries in a register, one for each file. -/
def Step.register : Register Step String where
  key := Step.typeName
  strikes := Step.discards

/-- A file is created when its entry is made. -/
theorem createdAt_eq_enteredAt :
    createdAt typeName history = Step.register.enteredAt typeName history := by
  induction history with
  | nil => rfl
  | cons step earlier ih =>
    rw [createdAt, Register.enteredAt, ih]
    rfl

/-- A file that was created has its type in a step of the history. -/
theorem exists_mem_of_createdAt (h : createdAt typeName history ≠ none) :
    ∃ step ∈ history, step.typeName = typeName := by
  rw [createdAt_eq_enteredAt, Register.enteredAt_ne_none_iff] at h
  obtain ⟨step, hfind, _⟩ := h
  have hkey := List.find?_some hfind
  exact ⟨step, List.mem_of_find?_eq_some hfind, of_decide_eq_true hkey⟩

/-- The list has all files that are there, each after those that were created before it. -/
structure IsOrder (history : List Step) (names : List String) : Prop where
  mem_iff : ∀ typeName, typeName ∈ names ↔ createdAt typeName history ≠ none
  sorted : names.Pairwise (CreatedBefore history)

/-- The files are in order when the register lists them. -/
theorem isOrder_iff_lists : IsOrder history names ↔ Step.register.Lists history names := by
  have hbefore : CreatedBefore history = Step.register.EnteredBefore history := by
    funext typeName other
    simp only [CreatedBefore, Register.EnteredBefore, createdAt_eq_enteredAt]
  constructor
  · rintro ⟨hmem, hsorted⟩
    exact ⟨fun typeName => createdAt_eq_enteredAt ▸ hmem typeName, hbefore ▸ hsorted⟩
  · rintro ⟨hmem, hsorted⟩
    exact ⟨fun typeName => createdAt_eq_enteredAt ▸ hmem typeName, hbefore ▸ hsorted⟩

namespace IsOrder

/-- At first there are no files. -/
theorem nil : IsOrder [] [] :=
  isOrder_iff_lists.mpr .nil

/-- No file is listed twice. -/
theorem nodup (h : IsOrder history names) : names.Nodup :=
  (isOrder_iff_lists.mp h).nodup

/-- A file that is created is put at the end, unless it is there. -/
theorem create (h : IsOrder history names) (hcreates : step.discards = false) :
    IsOrder (step :: history)
      (if step.typeName ∈ names then names else names ++ [step.typeName]) :=
  isOrder_iff_lists.mpr ((isOrder_iff_lists.mp h).enter hcreates)

/-- Discarding a file takes it off the list. -/
theorem discard (h : IsOrder history names) (hdiscards : step.discards = true) :
    IsOrder (step :: history) (names.filter (· != step.typeName)) :=
  isOrder_iff_lists.mpr ((isOrder_iff_lists.mp h).strike hdiscards)

end IsOrder

end Order

namespace Directory

variable {root : Path} {names : List String} {typeName : String}

/-- Listing the source of a type as written adds the type if it is missing. -/
theorem record_map (hnames : ∀ name ∈ names, isQualifiedIdentifier name = true)
    (hname : isQualifiedIdentifier typeName = true) :
    record (root.join (sourcePath typeName)) (names.map fun name => root.join (sourcePath name)) =
      (if typeName ∈ names then names else names ++ [typeName]).map
        fun name => root.join (sourcePath name) := by
  have hany : (names.map fun name => root.join (sourcePath name)).any
      (fun other => other.components == (root.join (sourcePath typeName)).components) =
        decide (typeName ∈ names) := by
    rw [Bool.eq_iff_iff, List.any_eq_true, decide_eq_true_iff]
    constructor
    · rintro ⟨_, hmem, heq⟩
      obtain ⟨name, hin, rfl⟩ := List.mem_map.mp hmem
      rw [← eq_of_components_join_sourcePath (hnames name hin) hname (beq_iff_eq.mp heq)]
      exact hin
    · intro hin
      exact ⟨_, List.mem_map_of_mem hin, beq_self_eq_true _⟩
  rw [record, hany]
  by_cases hin : typeName ∈ names <;> simp [hin]

/-- Taking the source of a type off the list takes the type off. -/
theorem forget_map (hnames : ∀ name ∈ names, isQualifiedIdentifier name = true)
    (hname : isQualifiedIdentifier typeName = true) :
    forget (root.join (sourcePath typeName)) (names.map fun name => root.join (sourcePath name)) =
      (names.filter (· != typeName)).map fun name => root.join (sourcePath name) := by
  rw [forget, List.filter_map]
  refine congrArg (List.map _) (List.filter_congr fun name hin => ?_)
  rw [Bool.eq_iff_iff, Function.comp_apply, bne_iff_ne, bne_iff_ne]
  constructor
  · rintro hne rfl
    exact hne rfl
  · intro hne heq
    exact hne (eq_of_components_join_sourcePath (hnames name hin) hname heq)

end Directory

end ToStringGen
