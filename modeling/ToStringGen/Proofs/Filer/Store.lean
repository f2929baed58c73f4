import ToStringGen.Proofs.Filer.Memory
import ToStringGen.Proofs.Filer.Steps
import ToStringGen.Proofs.Filer.Storing

/-!
# One store in two places

Files in memory and files below a directory that was empty at first are the same
store: after the same steps the same files are there with the same contents, and the
list of written files has them in the order of their creation.
-/

namespace ToStringGen

open Java Java.QualifiedName
open Text (Bytes)
open Disk OnDisk

/-- What a step makes of files that are kept by name. -/
def Step.keep (files : Std.ExtTreeMap String Bytes) : Step → Std.ExtTreeMap String Bytes
  | write artifact => files.insert artifact.qualifiedName (Text.Utf8.encode artifact.body)
  | session typeName strokes => files.insert typeName (strokes.flatMap Stroke.bytes)
  | discard typeName => files.erase typeName

/-- What a step makes of the list of written files. -/
def Step.list (root : Path) (step : Step) (written : List Path) : List Path :=
  if step.discards then Directory.forget (root.join (sourcePath step.typeName)) written
  else Directory.record (root.join (sourcePath step.typeName)) written

/-- A step keeps the files of all types that it is not about, and its own exactly if it is not to
be discarded. -/
theorem Step.mem_keep {files : Std.ExtTreeMap String Bytes} {step : Step} {typeName : String} :
    typeName ∈ step.keep files ↔
      if step.typeName = typeName then step.discards = false else typeName ∈ files := by
  by_cases heq : step.typeName = typeName
  · rw [if_pos heq, ← heq]
    cases step <;> simp [keep, Step.typeName, discards]
  · rw [if_neg heq]
    cases step <;> simp_all [keep, Step.typeName]

/-- Every step succeeds in memory. -/
theorem Memory.run_step (step : Step) (memory : Memory) :
    ∃ current, (filer.step step).run memory =
      (true, { files := step.keep memory.files, current }) := by
  cases step with
  | write artifact =>
    refine ⟨none, ?_⟩
    rw [Filer.step, run_bind, run_writeArtifact]
    rfl
  | session typeName strokes =>
    exact ⟨none, Filer.run_step_session (run_session memory typeName strokes)⟩
  | discard typeName => exact ⟨memory.current, rfl⟩

variable {σ : Type} [Volume Location (StateM σ)] [MonadStateOf (Directory Location) (StateM σ)]
  [OnDisk σ] {first : Disk} {root : Path} {base : Location}
  {files : Std.ExtTreeMap String Bytes} {history : List Step} {memory : Memory} {s : σ}

/-- Every step succeeds below a directory that was empty at first, when no call goes wrong by
itself and the names fit. -/
theorem Directory.run_step (hcalls : ∀ call, Reliable σ call)
    (hfirst : first.LeadsToEmpty root base) {step : Step}
    (hname : isQualifiedIdentifier step.typeName = true) (hfits : Fits root step.typeName)
    (hroot : (directory s).root = root) (h : Keeping first base files (disk s)) :
    ∃ t, ((filer : Filer (StateM σ)).step step).run s = (true, t) ∧
      (directory t).root = root ∧
      (directory t).written = step.list root (directory s).written ∧
      Keeping first base (step.keep files) (disk t) := by
  cases step with
  | write artifact =>
    obtain ⟨t, hrun, hdirectory, hkeeping⟩ :=
      run_writeArtifact hcalls hfirst hname hfits hroot h
    refine ⟨t, ?_, by rw [hdirectory, ← hroot], by rw [hdirectory]; rfl, hkeeping⟩
    rw [Filer.step, run_bind, hrun]
    rfl
  | session typeName strokes =>
    obtain ⟨t, hrun, hdirectory, hkeeping⟩ :=
      run_session hcalls hfirst hname hfits hroot h strokes
    exact ⟨t, Filer.run_step_session hrun, by rw [hdirectory, ← hroot],
      by rw [hdirectory]; rfl, hkeeping⟩
  | discard typeName =>
    obtain ⟨t, events, hrun, hevents, hdirectory, hkeeping⟩ :=
      run_discard hcalls hfirst hname hfits hroot h
    refine ⟨t, ?_, by rw [hdirectory, ← hroot], by rw [hdirectory]; rfl, hkeeping⟩
    change ((filer : Filer (StateM σ)).discard typeName).run s = (events, t) at hrun
    rw [Filer.step, run_bind, hrun]
    rcases hevents with rfl | rfl <;> rfl

/-- After the same steps a store in memory and one below a directory have the same files, and the
list of written files has them in the order of their creation. -/
structure SameStore (first : Disk) (root : Path) (base : Location) (history : List Step)
    (memory : Memory) (s : σ) : Prop where
  root_eq : (directory s).root = root
  keeping : Keeping first base memory.files (disk s)
  created : ∀ typeName, typeName ∈ memory.files ↔ createdAt typeName history ≠ none
  accepted : ∀ step ∈ history, isQualifiedIdentifier step.typeName = true
  written : ∃ names, IsOrder history names ∧
    (directory s).written = names.map fun name => root.join (sourcePath name)

namespace SameStore

/-- At first both are empty. -/
theorem of_empty (hfirst : first.LeadsToEmpty root base) (hdisk : disk s = first)
    (hdirectory : directory s = { root }) : SameStore first root base [] {} s where
  root_eq := by rw [hdirectory]
  keeping := by
    rw [hdisk]
    exact .of_empty hfirst
  created typeName := by simp [createdAt]
  accepted := by simp
  written := ⟨[], .nil, by rw [hdirectory]; rfl⟩

/-- The list of written files stays in order when a step is taken. -/
theorem exists_order (h : SameStore first root base history memory s) {step : Step}
    (hname : isQualifiedIdentifier step.typeName = true) :
    ∃ names, IsOrder (step :: history) names ∧
      step.list root (directory s).written = names.map fun name => root.join (sourcePath name) := by
  obtain ⟨names, horder, hwritten⟩ := h.written
  have hnames : ∀ name ∈ names, isQualifiedIdentifier name = true := by
    intro name hmem
    obtain ⟨found, hfound, rfl⟩ := exists_mem_of_createdAt ((horder.mem_iff name).mp hmem)
    exact h.accepted found hfound
  cases hdiscards : step.discards with
  | true =>
    refine ⟨_, horder.discard hdiscards, ?_⟩
    rw [Step.list, if_pos hdiscards, hwritten, Directory.forget_map hnames hname]
  | false =>
    refine ⟨_, horder.create hdiscards, ?_⟩
    rw [Step.list, hdiscards, if_neg Bool.false_ne_true, hwritten,
      Directory.record_map hnames hname]

/-- One step succeeds on both, and they have the same files after it. -/
theorem step (h : SameStore first root base history memory s)
    (hcalls : ∀ call, Reliable σ call) (hfirst : first.LeadsToEmpty root base) {step : Step}
    (hname : isQualifiedIdentifier step.typeName = true) (hfits : Fits root step.typeName) :
    ∃ memory' t, (Memory.filer.step step).run memory = (true, memory') ∧
      ((Directory.filer : Filer (StateM σ)).step step).run s = (true, t) ∧
      SameStore first root base (step :: history) memory' t := by
  obtain ⟨current, hmemory⟩ := Memory.run_step step memory
  obtain ⟨t, hrun, hroot, hlist, hkeeping⟩ :=
    Directory.run_step hcalls hfirst hname hfits h.root_eq h.keeping
  refine ⟨_, t, hmemory, hrun, hroot, hkeeping, fun typeName => ?_, ?_, ?_⟩
  · rw [Step.mem_keep, createdAt]
    split
    · cases step.discards <;> simp
    · exact h.created typeName
  · exact List.forall_mem_cons.mpr ⟨hname, h.accepted⟩
  · rw [hlist]
    exact h.exists_order hname

/-- All steps succeed on both, and they have the same files in the end. -/
theorem steps (h : SameStore first root base history memory s)
    (hcalls : ∀ call, Reliable σ call) (hfirst : first.LeadsToEmpty root base)
    {steps : List Step} (hnames : ∀ step ∈ steps, isQualifiedIdentifier step.typeName = true)
    (hfits : ∀ step ∈ steps, Fits root step.typeName) :
    ∃ memory' t, (Memory.filer.steps steps).run memory =
        (List.replicate steps.length true, memory') ∧
      ((Directory.filer : Filer (StateM σ)).steps steps).run s =
        (List.replicate steps.length true, t) ∧
      SameStore first root base (steps.reverse ++ history) memory' t := by
  induction steps generalizing history memory s with
  | nil => exact ⟨memory, s, rfl, by rw [Filer.steps, run_pure]; rfl, h⟩
  | cons step rest ih =>
    obtain ⟨hname, hnames⟩ := List.forall_mem_cons.mp hnames
    obtain ⟨hfit, hfits⟩ := List.forall_mem_cons.mp hfits
    obtain ⟨between, u, hmemory, hrun, hsame⟩ := h.step hcalls hfirst hname hfit
    obtain ⟨memory', t, hmemories, hruns, hend⟩ := ih hsame hnames hfits
    refine ⟨memory', t, ?_, ?_, ?_⟩
    · rw [Filer.steps, run_bind, hmemory]
      simp only [run_bind, hmemories, run_pure, List.length_cons, List.replicate_succ]
    · rw [Filer.steps, run_bind, hrun]
      simp only [run_bind, hruns, run_pure, List.length_cons, List.replicate_succ]
    · rw [List.reverse_cons, List.append_assoc]
      exact hend

end SameStore

/-- A directory has the files of a store in memory: they lie where their paths lead, there are no
other files, and the list of written files has each of them once, in the order in which they were
created first since they were last discarded. -/
structure Mirrors (root : Path) (base : Location) (history : List Step) (memory : Memory)
    (directory : Directory Location) (disk : Disk) : Prop where
  kept : ∀ typeName contents, memory.files[typeName]? = some contents →
    disk.locate true (root.join (sourcePath typeName)) =
      .ok (.occupied (base ++ sourceNames typeName) (.file contents))
  only : ∀ names contents, disk.entry? (base ++ names) = some (.file contents) →
    ∃ typeName, memory.files[typeName]? = some contents ∧ names = sourceNames typeName
  written : ∃ names : List String, names.Perm memory.names ∧
    names.Pairwise (CreatedBefore history) ∧
    directory.written = names.map fun name => root.join (sourcePath name)

/-- The same store is there in memory and below the directory. -/
theorem SameStore.mirrors (h : SameStore first root base history memory s)
    (hfirst : first.LeadsToEmpty root base)
    (hfits : ∀ step ∈ history, Fits root step.typeName) :
    Mirrors root base history memory (directory s) (disk s) := by
  constructor
  · intro typeName contents hfile
    have hmem := Std.ExtTreeMap.mem_iff_isSome_getElem?.mpr (by rw [hfile]; rfl)
    obtain ⟨step, hstep, rfl⟩ := exists_mem_of_createdAt ((h.created typeName).mp hmem)
    exact h.keeping.locate_of_mem hfirst (h.accepted step hstep) (hfits step hstep) hfile true
  · intro names contents hentry
    by_cases hne : names = []
    · rw [hne, List.append_nil, h.keeping.base_eq hfirst] at hentry
      exact Entry.noConfusion (Option.some.inj hentry)
    · rcases h.keeping.below names _ hne hentry with
        ⟨hdirectory, _⟩ | ⟨typeName, found, hfile, hnames, hfound⟩
      · exact Entry.noConfusion hdirectory
      · rw [Entry.file.inj hfound]
        exact ⟨typeName, hfile, hnames⟩
  · obtain ⟨names, horder, hwritten⟩ := h.written
    refine ⟨names, ?_, horder.sorted, hwritten⟩
    refine (List.perm_ext_iff_of_nodup horder.nodup Std.ExtTreeMap.nodup_keys).mpr ?_
    intro typeName
    rw [horder.mem_iff, ← h.created]
    exact Std.ExtTreeMap.mem_keys.symm

/-- Whatever is asked of both destinations, one that keeps files in memory and one below a directory
that is empty at first and has room for the names, succeeds step by step and leaves them with the
same store. The steps are any, so that this is so after each of them. -/
theorem run_steps_mirrors {disk : Disk} (hempty : disk.LeadsToEmpty root base) {steps : List Step}
    (hnames : ∀ step ∈ steps, isQualifiedIdentifier step.typeName = true)
    (hfits : ∀ step ∈ steps, Fits root step.typeName) :
    let inMemory := (Memory.filer.steps steps).run {}
    let onDisk := ((Directory.filer : Filer (StateM Workspace)).steps steps).run
      { directory := { root }, disk }
    inMemory.1 = List.replicate steps.length true ∧
      onDisk.1 = List.replicate steps.length true ∧
      Mirrors root base steps.reverse inMemory.2 onDisk.2.directory onDisk.2.disk := by
  obtain ⟨memory, workspace, hmemory, hworkspace, hsame⟩ :=
    (SameStore.of_empty (s := ({ directory := { root }, disk } : Workspace)) hempty rfl rfl).steps
      (fun _ => trivial) hempty hnames hfits
  rw [List.append_nil] at hsame
  have hmirrors := hsame.mirrors hempty fun step hstep => hfits step (List.mem_reverse.mp hstep)
  rw [hmemory, hworkspace]
  exact ⟨rfl, rfl, hmirrors⟩

/-- A disk with an empty output directory. -/
def emptyOutput : Disk := ({} : Disk).put ["o"] .directory

/-- An empty directory leads to itself. -/
theorem leadsToEmpty_emptyOutput : emptyOutput.LeadsToEmpty ⟨"o"⟩ ["o"] where
  leadsTo := by
    simp +decide [LeadsTo, follow, start, steps, Text.segments, linkLimit, emptyOutput, put,
      Disk.entry?]
  empty names hne := by simp +decide [emptyOutput, put, Disk.entry?, hne]

/-- A file is written and discarded, another one is written in pieces, and the first one is written
once more. -/
def someSteps : List Step :=
  [.write { qualifiedName := "p.A", body := "x" },
    .session "A" [.write [1, 2], .flush, .write [3]], .discard "p.A",
    .write { qualifiedName := "p.A", body := "y" }]

/-- What was written, discarded and written again comes after what was written between. -/
theorem run_steps_mirrors_someSteps :
    emptyOutput.LeadsToEmpty ⟨"o"⟩ ["o"] ∧
      (∀ step ∈ someSteps, isQualifiedIdentifier step.typeName = true) ∧
      (∀ step ∈ someSteps, Fits ⟨"o"⟩ step.typeName) ∧
      let inMemory := (Memory.filer.steps someSteps).run {}
      let onDisk := ((Directory.filer : Filer (StateM Workspace)).steps someSteps).run
        { directory := { root := ⟨"o"⟩ }, disk := emptyOutput }
      inMemory.1 = [true, true, true, true] ∧ onDisk.1 = [true, true, true, true] ∧
        Mirrors ⟨"o"⟩ ["o"] someSteps.reverse inMemory.2 onDisk.2.directory onDisk.2.disk := by
  have hnames : ∀ step ∈ someSteps, isQualifiedIdentifier step.typeName = true := by
    decide +kernel
  have hfits : ∀ step ∈ someSteps, Fits ⟨"o"⟩ step.typeName := by decide +kernel
  exact ⟨leadsToEmpty_emptyOutput, hnames, hfits,
    run_steps_mirrors leadsToEmpty_emptyOutput hnames hfits⟩

end ToStringGen
