import ToStringGen.Filer.Directory
import ToStringGen.Proofs.Path
import ToStringGen.Proofs.StateM

/-!
# What filing reaches for

A watched volume notes at which paths it is asked to do something. To file an artifact
below a directory, the file at its path is opened and perhaps removed, and directories
above it are made and looked for; nothing else is reached for, whatever goes wrong.
-/

namespace ToStringGen

open Text (Bytes)

/-- Something that a volume is asked to do at a path. -/
inductive Access where
  /-- A file or directory is looked for or read. -/
  | look (path : Path)
  | makeDirectory (path : Path)
  | create (path : Path)
  | remove (path : Path)
  deriving DecidableEq, Repr

/-- A volume that is watched, and the output directory that is being filled on it. -/
structure Watched (Handle σ : Type) where
  directory : Directory Handle
  volume : σ
  /-- What the volume was asked to do at paths, in order. -/
  accesses : List Access := []

namespace Watched

variable {Handle σ α : Type}

instance : MonadStateOf (Directory Handle) (StateM (Watched Handle σ)) where
  get := fun watched => (watched.directory, watched)
  set directory := fun watched => ((), { watched with directory })
  modifyGet change := fun watched =>
    let (value, directory) := change watched.directory
    (value, { watched with directory })

/-- Asks the volume for something that is not at a path. -/
def ask (action : StateM σ α) : StateM (Watched Handle σ) α := fun watched =>
  let (result, volume) := action.run watched.volume
  (result, { watched with volume })

/-- Asks the volume for something at a path and notes it. -/
def askAt (access : Access) (action : StateM σ α) : StateM (Watched Handle σ) α := fun watched =>
  let (result, volume) := action.run watched.volume
  (result, { watched with volume, accesses := watched.accesses ++ [access] })

instance [Volume Handle (StateM σ)] : Volume Handle (StateM (Watched Handle σ)) where
  isFile path := askAt (.look path) (Volume.isFile path)
  isDirectory path := askAt (.look path) (Volume.isDirectory path)
  read path := askAt (.look path) (Volume.read path)
  makeDirectory path := askAt (.makeDirectory path) (Volume.makeDirectory path)
  create path := askAt (.create path) (Volume.create path)
  append handle bytes := ask (Volume.append handle bytes)
  remove path := askAt (.remove path) (Volume.remove path)

end Watched

/-- What filing at a path reaches for: the file, and directories above it. -/
inductive Access.Files (path : Path) : Access → Prop
  | create : Access.Files path (.create path)
  | remove : Access.Files path (.remove path)
  | makeDirectory {front rest : List Path.Component} (hrest : rest ≠ [])
      (h : front ++ rest = path.components) :
      Access.Files path (.makeDirectory (Path.ofComponents front))
  | look {front rest : List Path.Component} (hrest : rest ≠ [])
      (h : front ++ rest = path.components) :
      Access.Files path (.look (Path.ofComponents front))

/-- An action that leaves the root of the output directory as it is and reaches for certain
things only. -/
def ReachesOnly {Handle σ α : Type} (root : Path) (P : Access → Prop)
    (action : StateM (Watched Handle σ) α) : Prop :=
  ∀ s, s.directory.root = root →
    (action.run s).2.directory.root = root ∧
      ∀ access ∈ (action.run s).2.accesses, access ∈ s.accesses ∨ P access

namespace ReachesOnly

variable {Handle σ α β : Type} {root : Path} {P Q : Access → Prop}

/-- Returning a result reaches for nothing. -/
theorem pure (result : α) :
    ReachesOnly root P (Pure.pure result : StateM (Watched Handle σ) α) :=
  fun _ hroot => ⟨hroot, fun _ hmem => Or.inl hmem⟩

/-- Two actions reach for what each of them reaches for. -/
theorem bind {first : StateM (Watched Handle σ) α} {next : α → StateM (Watched Handle σ) β}
    (h : ReachesOnly root P first) (hnext : ∀ result, ReachesOnly root P (next result)) :
    ReachesOnly root P (first >>= next) := by
  intro s hroot
  obtain ⟨hmiddle, hfirst⟩ := h s hroot
  obtain ⟨hend, hrest⟩ := hnext _ _ hmiddle
  refine ⟨hend, fun access hmem => ?_⟩
  rcases hrest access hmem with hmem | hP
  · exact hfirst access hmem
  · exact Or.inr hP

/-- What is reached for may be described more loosely. -/
theorem mono {action : StateM (Watched Handle σ) α} (h : ReachesOnly root P action)
    (hPQ : ∀ access, P access → Q access) : ReachesOnly root Q action := fun s hroot =>
  ⟨(h s hroot).1, fun access hmem => ((h s hroot).2 access hmem).imp_right (hPQ access)⟩

/-- What is done with the output directory reaches for what it does by its root. -/
theorem get_bind {next : Directory Handle → StateM (Watched Handle σ) β}
    (hnext : ∀ directory, directory.root = root → ReachesOnly root P (next directory)) :
    ReachesOnly root P (getThe (Directory Handle) >>= next) :=
  fun s hroot => hnext s.directory hroot s hroot

/-- A change of the output directory, but for its root, reaches for nothing. -/
theorem modify {change : Directory Handle → Directory Handle}
    (h : ∀ directory, (change directory).root = directory.root) :
    ReachesOnly root P
      (modifyThe (Directory Handle) change : StateM (Watched Handle σ) PUnit) :=
  fun s hroot => ⟨(h s.directory).trans hroot, fun _ hmem => Or.inl hmem⟩

/-- What is not at a path reaches for nothing. -/
theorem ask (action : StateM σ α) :
    ReachesOnly root P (Watched.ask action : StateM (Watched Handle σ) α) :=
  fun _ hroot => ⟨hroot, fun _ hmem => Or.inl hmem⟩

/-- What is at a path reaches for it. -/
theorem askAt {access : Access} (h : P access) (action : StateM σ α) :
    ReachesOnly root P (Watched.askAt access action : StateM (Watched Handle σ) α) := by
  refine fun s hroot => ⟨hroot, fun other hmem => ?_⟩
  rcases List.mem_append.mp hmem with hmem | hmem
  · exact Or.inl hmem
  · rw [List.mem_singleton.mp hmem]
    exact Or.inr h

/-- Replacing the open file reaches for nothing. -/
theorem setOutput (output : Option (Output Handle)) :
    ReachesOnly root P (Directory.setOutput output : StateM (Watched Handle σ) Unit) :=
  modify fun _ => rfl

section Filing

variable [Volume Handle (StateM σ)] {path : Path}

/-- Making directories reaches for them and for those above them. -/
theorem makeTree {components : List Path.Component}
    (h : ∃ rest, rest ≠ [] ∧ components.reverse ++ rest = path.components) :
    ReachesOnly root (Access.Files path)
      (Volume.makeTree components : StateM (Watched Handle σ) (Except Fault Unit)) := by
  induction components with
  | nil => exact .pure _
  | cons component above ih =>
    obtain ⟨rest, hrest, hcomponents⟩ := h
    have habove := ih ⟨component :: rest, List.cons_ne_nil _ _, by
      rw [← hcomponents, List.reverse_cons, List.append_assoc, List.singleton_append]⟩
    have hmake : ReachesOnly root (Access.Files path)
        (Volume.makeDirectory (Path.ofComponents (component :: above).reverse) :
          StateM (Watched Handle σ) (Except Fault Unit)) :=
      askAt (.makeDirectory hrest hcomponents) _
    have hlook : ReachesOnly root (Access.Files path)
        (Volume.isDirectory (Path.ofComponents (component :: above).reverse) :
          StateM (Watched Handle σ) Bool) :=
      askAt (.look hrest hcomponents) _
    rw [Volume.makeTree]
    refine hmake.bind fun result => ?_
    split
    · exact .pure _
    · split
      · refine habove.bind fun result => ?_
        split
        · exact .pure _
        · refine hmake.bind fun result => ?_
          split
          · exact .pure _
          · exact hlook.bind fun _ => .pure _
      · exact hlook.bind fun _ => .pure _

/-- Opening a file reaches for it and for the directories above it. -/
theorem openFile (path : Path) :
    ReachesOnly root (Access.Files path)
      (Directory.openFile path : StateM (Watched Handle σ) (Except Fault Handle)) := by
  have hparents : ReachesOnly root (Access.Files path)
      (Volume.makeParents path : StateM (Watched Handle σ) (Except Fault Unit)) := by
    unfold Volume.makeParents
    split
    · exact .pure _
    · next parent hparent =>
      obtain ⟨last, hlast⟩ := Path.exists_components_eq_append hparent
      refine makeTree ⟨[last], List.cons_ne_nil _ _, ?_⟩
      rw [List.reverse_reverse, hlast]
  unfold Directory.openFile
  refine hparents.bind fun result => ?_
  split
  · exact .pure _
  · exact askAt .create _

variable {typeName : String}

/-- Creating the file of a type files at the path of the type. -/
theorem create (hpath : root.join (Java.QualifiedName.sourcePath typeName) = path) :
    ReachesOnly root (Access.Files path)
      ((Directory.filer : Filer (StateM (Watched Handle σ))).create typeName) := by
  refine get_bind fun directory hroot => ?_
  have hhere : directory.pathFor typeName = path := by rw [Directory.pathFor, hroot, hpath]
  rw [hhere]
  refine (openFile path).bind fun result => ?_
  split
  · exact .pure _
  · refine bind (modify ?_) fun _ => .pure _
    exact fun _ => rfl

/-- Discarding the file of a type files at the path of the type. -/
theorem discard (hpath : root.join (Java.QualifiedName.sourcePath typeName) = path) :
    ReachesOnly root (Access.Files path)
      ((Directory.filer : Filer (StateM (Watched Handle σ))).discard typeName) := by
  refine get_bind fun directory hroot => ?_
  have hhere : directory.pathFor typeName = path := by rw [Directory.pathFor, hroot, hpath]
  rw [hhere]
  refine bind (modify ?_) fun _ => ?_
  · exact fun _ => rfl
  · refine (askAt .remove _).bind fun result => ?_
    split <;> exact .pure _

/-- Writing out what is held back reaches for nothing: the file is open already. -/
theorem flushHeld :
    ReachesOnly root P
      (Directory.flushHeld : StateM (Watched Handle σ) (Except Fault Unit)) := by
  refine get_bind fun directory _ => ?_
  split
  · exact .pure _
  · split
    · exact .pure _
    · refine (ask _).bind fun result => ?_
      split
      · exact .pure _
      · exact (setOutput _).bind fun _ => .pure _

/-- Writing a large piece reaches for nothing. -/
theorem writeLarge (bytes : Bytes) :
    ReachesOnly root P (Directory.writeLarge bytes : StateM (Watched Handle σ) Attempt) := by
  refine get_bind fun directory _ => ?_
  split
  · exact .pure _
  · split
    · exact (setOutput _).bind fun _ => .pure _
    · refine (ask _).bind fun result => ?_
      split <;> exact .pure _

/-- Offering bytes reaches for nothing. -/
theorem offer (bytes : Bytes) :
    ReachesOnly root P (Directory.offer bytes : StateM (Watched Handle σ) Attempt) := by
  refine get_bind fun directory _ => ?_
  split
  · exact .pure _
  · dsimp only
    split
    · exact (setOutput _).bind fun _ => .pure _
    · split
      · refine flushHeld.bind fun result => ?_
        split
        · exact .pure _
        · exact writeLarge bytes
      · exact writeLarge bytes

/-- Writing a body to the open file reaches for nothing. -/
theorem writeBody (body : String) :
    ReachesOnly root P
      ((Directory.filer : Filer (StateM (Watched Handle σ))).writeBody body) := by
  have hall : ∀ bytes, ReachesOnly root P
      ((Directory.filer : Filer (StateM (Watched Handle σ))).writeAll bytes) := by
    intro bytes
    induction bytes using Filer.writeAll.induct with
    | case1 =>
      rw [Filer.writeAll]
      exact .pure _
    | case2 b rest ih =>
      rw [Filer.writeAll]
      refine (offer (b :: rest)).bind fun attempt => ?_
      split
      · exact .pure _
      · exact .pure _
      · next count _ => exact ih count
  unfold Filer.writeBody
  refine (hall _).bind fun result => ?_
  split
  · exact .pure _
  · exact flushHeld

/-- Writing an artifact files at its path. -/
theorem writeArtifact (artifact : Artifact) :
    ReachesOnly root
      (Access.Files (root.join (Java.QualifiedName.sourcePath artifact.qualifiedName)))
      ((Directory.filer : Filer (StateM (Watched Handle σ))).writeArtifact artifact) := by
  have hclose : ReachesOnly root
      (Access.Files (root.join (Java.QualifiedName.sourcePath artifact.qualifiedName)))
      (Directory.filer : Filer (StateM (Watched Handle σ))).close :=
    flushHeld.bind fun _ => setOutput none
  unfold Filer.writeArtifact
  refine (create rfl).bind fun answer => ?_
  split
  · exact .pure _
  · refine (writeBody artifact.body).bind fun result => ?_
    split
    · exact hclose.bind fun _ => .pure _
    · exact hclose.bind fun _ => (discard rfl).bind fun _ => .pure _

end Filing

end ReachesOnly

end ToStringGen
