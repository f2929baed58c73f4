import ToStringGen.Proofs.Filer.OnDisk

/-!
# Trials

A trial is work on a disk on which any calls may go wrong by themselves. Which of
them do is planned beforehand, by the kind of the call and the number of calls made
before it, so that every pattern of failures is that of a plan.
-/

namespace ToStringGen

/-- A call that goes wrong, although the disk would let it through. -/
structure Mishap where
  fault : Fault
  /-- The bytes that a write gets through before it goes wrong. -/
  taken : Nat := 0
  deriving DecidableEq, Repr

/-- What goes wrong by itself, by the kind of the call and the number of calls before it. -/
abbrev Plan := Call → Nat → Option Mishap

/-- A disk on which calls go wrong as planned, and the output directory that is being filled on
it. -/
structure Trial (plan : Plan) where
  directory : Directory Location
  disk : Disk
  /-- The number of calls made. -/
  calls : Nat := 0

namespace Trial

variable {plan : Plan}

instance : MonadStateOf (Directory Location) (StateM (Trial plan)) where
  get := fun trial => (trial.directory, trial)
  set directory := fun trial => ((), { trial with directory })
  modifyGet change := fun trial =>
    let (value, directory) := change trial.directory
    (value, { trial with directory })

/-- Makes a call, unless it is planned to go wrong. -/
def call {α : Type} (call : Call) (act : Disk → Except Fault α × Disk)
    (partly : Nat → Disk → Disk) : StateM (Trial plan) (Except Fault α) :=
  fun trial =>
    match plan call trial.calls with
    | none =>
        let (result, disk) := act trial.disk
        (result, { trial with disk, calls := trial.calls + 1 })
    | some mishap =>
        (.error mishap.fault,
          { trial with disk := partly mishap.taken trial.disk, calls := trial.calls + 1 })

instance : Volume Location (StateM (Trial plan)) where
  isFile path := fun trial => (trial.disk.isFile path, trial)
  isDirectory path := fun trial => (trial.disk.isDirectory path, trial)
  read path := fun trial => (trial.disk.read path, trial)
  makeDirectory path := call .makeDirectory (·.makeDirectory path) fun _ disk => disk
  create path := call .create (·.create path) fun _ disk => disk
  append location bytes := call .append (·.append location bytes) fun taken disk =>
    (disk.append location (bytes.take taken)).2
  remove path := call .remove (·.remove path) fun _ disk => disk

/-- A call does what it does on the disk, or it is planned to go wrong. -/
theorem call_spec {α : Type} {kind : Call} {act : Disk → Except Fault α × Disk}
    {partly : Nat → Disk → Disk} {s t : Trial plan} {r : Except Fault α}
    (h : (call kind act partly).run s = (r, t)) :
    t.directory = s.directory ∧
      (r = (act s.disk).1 ∧ t.disk = (act s.disk).2 ∨
        (¬∀ n, plan kind n = none) ∧ (∃ fault, r = .error fault) ∧
          ∃ taken, t.disk = partly taken s.disk) := by
  change call kind act partly s = (r, t) at h
  unfold call at h
  split at h
  · cases h
    exact ⟨rfl, Or.inl ⟨rfl, rfl⟩⟩
  · next mishap hplan =>
    cases h
    refine ⟨rfl, Or.inr ⟨fun hnone => ?_, ⟨_, rfl⟩, _, rfl⟩⟩
    rw [hnone] at hplan
    exact Option.some_ne_none mishap hplan.symm

/-- In a trial the calls of a kind are reliable when none of them is planned to go wrong. -/
instance : OnDisk (Trial plan) where
  disk := Trial.disk
  directory := Trial.directory
  Reliable kind := ∀ n, plan kind n = none
  get_spec _ := rfl
  modify_spec _ _ _ _ h := by cases h; exact ⟨rfl, rfl⟩
  set_spec _ _ _ _ h := by cases h; exact ⟨rfl, rfl⟩
  isDirectory_spec _ _ _ _ h := by cases h; exact ⟨rfl, rfl⟩
  makeDirectory_spec _ _ _ _ h := by
    obtain ⟨hdirectory, hdisk | ⟨hplanned, hfault, _, hdisk⟩⟩ := call_spec h
    · exact ⟨hdirectory, Or.inl hdisk⟩
    · exact ⟨hdirectory, Or.inr ⟨hplanned, hfault, hdisk⟩⟩
  create_spec _ _ _ _ h := by
    obtain ⟨hdirectory, hdisk | ⟨hplanned, hfault, _, hdisk⟩⟩ := call_spec h
    · exact ⟨hdirectory, Or.inl hdisk⟩
    · exact ⟨hdirectory, Or.inr ⟨hplanned, hfault, hdisk⟩⟩
  append_spec _ _ _ _ _ h := by
    obtain ⟨hdirectory, hdisk | ⟨hplanned, hfault, taken, hdisk⟩⟩ := call_spec h
    · exact ⟨hdirectory, Or.inl hdisk⟩
    · exact ⟨hdirectory, Or.inr ⟨hplanned, hfault, _, hdisk⟩⟩
  remove_spec _ _ _ _ h := by
    obtain ⟨hdirectory, hdisk | ⟨hplanned, hfault, _, hdisk⟩⟩ := call_spec h
    · exact ⟨hdirectory, Or.inl hdisk⟩
    · exact ⟨hdirectory, Or.inr ⟨hplanned, hfault, hdisk⟩⟩

end Trial

end ToStringGen
