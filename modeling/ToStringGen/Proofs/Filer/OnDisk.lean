import ToStringGen.Proofs.Disk.Effect
import ToStringGen.Proofs.StateM
import ToStringGen.Workspace

/-!
# Filing on a disk

An output directory is filled on a state that keeps a disk, on which calls may go
wrong by themselves. What is written to an open file is on the disk or held back,
in the order in which it was offered, and as long as nothing fails it is all there.
-/

namespace ToStringGen

open Text (Bytes)

/-- The calls that change a disk. -/
inductive Call where
  | makeDirectory
  | create
  | append
  | remove
  deriving DecidableEq, Repr

/-- States that keep an output directory and a disk. A call does what it does to the disk, or it
goes wrong by itself: then it changes nothing, except that a write may get a part of its bytes
through. -/
class OnDisk (σ : Type) [Volume Location (StateM σ)]
    [MonadStateOf (Directory Location) (StateM σ)] where
  disk : σ → Disk
  directory : σ → Directory Location
  /-- No call of the kind goes wrong by itself. -/
  Reliable : Call → Prop
  get_spec : ∀ s, (getThe (Directory Location) : StateM σ _).run s = (directory s, s)
  modify_spec : ∀ change s r t, (modifyThe (Directory Location) change : StateM σ _).run s = (r, t) →
    directory t = change (directory s) ∧ disk t = disk s
  set_spec : ∀ output s r t, (set output : StateM σ PUnit).run s = (r, t) →
    directory t = output ∧ disk t = disk s
  isDirectory_spec : ∀ path s r t, (Volume.isDirectory path : StateM σ _).run s = (r, t) →
    r = (disk s).isDirectory path ∧ t = s
  makeDirectory_spec : ∀ path s r t, (Volume.makeDirectory path : StateM σ _).run s = (r, t) →
    directory t = directory s ∧
      (r = ((disk s).makeDirectory path).1 ∧ disk t = ((disk s).makeDirectory path).2 ∨
        ¬Reliable .makeDirectory ∧ (∃ fault, r = .error fault) ∧ disk t = disk s)
  create_spec : ∀ path s r t, (Volume.create path : StateM σ _).run s = (r, t) →
    directory t = directory s ∧
      (r = ((disk s).create path).1 ∧ disk t = ((disk s).create path).2 ∨
        ¬Reliable .create ∧ (∃ fault, r = .error fault) ∧ disk t = disk s)
  append_spec : ∀ handle bytes s r t, (Volume.append handle bytes : StateM σ _).run s = (r, t) →
    directory t = directory s ∧
      (r = ((disk s).append handle bytes).1 ∧ disk t = ((disk s).append handle bytes).2 ∨
        ¬Reliable .append ∧ (∃ fault, r = .error fault) ∧
          ∃ taken, disk t = ((disk s).append handle taken).2)
  remove_spec : ∀ path s r t, (Volume.remove path : StateM σ _).run s = (r, t) →
    directory t = directory s ∧
      (r = ((disk s).remove path).1 ∧ disk t = ((disk s).remove path).2 ∨
        ¬Reliable .remove ∧ (∃ fault, r = .error fault) ∧ disk t = disk s)

/-- Nothing goes wrong by itself in a workspace. -/
instance : OnDisk Workspace where
  disk := Workspace.disk
  directory := Workspace.directory
  Reliable _ := True
  get_spec _ := rfl
  modify_spec _ _ _ _ h := by cases h; exact ⟨rfl, rfl⟩
  set_spec _ _ _ _ h := by cases h; exact ⟨rfl, rfl⟩
  isDirectory_spec _ _ _ _ h := by cases h; exact ⟨rfl, rfl⟩
  makeDirectory_spec _ _ _ _ h := by cases h; exact ⟨rfl, Or.inl ⟨rfl, rfl⟩⟩
  create_spec _ _ _ _ h := by cases h; exact ⟨rfl, Or.inl ⟨rfl, rfl⟩⟩
  append_spec _ _ _ _ _ h := by cases h; exact ⟨rfl, Or.inl ⟨rfl, rfl⟩⟩
  remove_spec _ _ _ _ h := by cases h; exact ⟨rfl, Or.inl ⟨rfl, rfl⟩⟩

namespace OnDisk

variable {σ : Type} [Volume Location (StateM σ)] [MonadStateOf (Directory Location) (StateM σ)]
  [OnDisk σ]

/-- A reliable call makes the directory if the disk lets it. -/
theorem run_makeDirectory (h : Reliable σ .makeDirectory) (path : Path) (s : σ) :
    ∃ t, (Volume.makeDirectory path : StateM σ (Except Fault Unit)).run s =
        (((disk s).makeDirectory path).1, t) ∧
      directory t = directory s ∧ disk t = ((disk s).makeDirectory path).2 := by
  obtain ⟨hdirectory, ⟨hr, hdisk⟩ | ⟨hunreliable, _⟩⟩ := makeDirectory_spec path s _ _ rfl
  · exact ⟨_, Prod.ext hr rfl, hdirectory, hdisk⟩
  · exact absurd h hunreliable

/-- A reliable call opens the file if the disk lets it. -/
theorem run_create (h : Reliable σ .create) (path : Path) (s : σ) :
    ∃ t, (Volume.create path : StateM σ (Except Fault Location)).run s =
        (((disk s).create path).1, t) ∧
      directory t = directory s ∧ disk t = ((disk s).create path).2 := by
  obtain ⟨hdirectory, ⟨hr, hdisk⟩ | ⟨hunreliable, _⟩⟩ := create_spec path s _ _ rfl
  · exact ⟨_, Prod.ext hr rfl, hdirectory, hdisk⟩
  · exact absurd h hunreliable

/-- A reliable call removes the file if the disk lets it. -/
theorem run_remove (h : Reliable σ .remove) (path : Path) (s : σ) :
    ∃ t, (Volume.remove path : StateM σ (Except Fault Unit)).run s =
        (((disk s).remove path).1, t) ∧
      directory t = directory s ∧ disk t = ((disk s).remove path).2 := by
  obtain ⟨hdirectory, ⟨hr, hdisk⟩ | ⟨hunreliable, _⟩⟩ := remove_spec path s _ _ rfl
  · exact ⟨_, Prod.ext hr rfl, hdirectory, hdisk⟩
  · exact absurd h hunreliable

/-- Looking for a directory tells whether there is one. -/
theorem run_isDirectory (path : Path) (s : σ) :
    (Volume.isDirectory path : StateM σ Bool).run s = ((disk s).isDirectory path, s) := by
  obtain ⟨hr, ht⟩ := isDirectory_spec path s _ _ rfl
  exact Prod.ext hr ht

end OnDisk

namespace Directory

variable {σ : Type} [Volume Location (StateM σ)] [MonadStateOf (Directory Location) (StateM σ)]
  [OnDisk σ] {s t : σ} {output : Output Location}

open OnDisk

/-- Getting the output directory changes nothing. -/
@[simp high] theorem run_get (s : σ) :
    (getThe (Directory Location) : StateM σ (Directory Location)).run s = (directory s, s) :=
  get_spec s

/-- The open file is replaced, and nothing else. -/
theorem setOutput_spec {open_ : Option (Output Location)} {r : Unit}
    (h : (setOutput open_ : StateM σ Unit).run s = (r, t)) :
    directory t = { directory s with output := open_ } ∧ disk t = disk s :=
  modify_spec _ s r t h

/-- There is a file at a place. -/
def HasFile (s : σ) (handle : Location) : Prop :=
  ∃ contents, Disk.entry? (disk s) handle = some (.file contents)

/-- From one state to another, bytes reached the file that is open and others are held back from
it. Nothing else changed. -/
structure Passes (s t : σ) (handle : Location) (taken held : Bytes) : Prop where
  disk_eq : disk t = ((disk s).append handle taken).2
  directory_eq : directory t = { directory s with output := some { handle, held } }

/-- A step that is to bring bytes to the file that is open, after those held back from it before:
if it succeeds they are on the disk or held back, in order, and it does succeed on a file when no
write goes wrong by itself. -/
structure Brings (s t : σ) (output : Output Location) (bytes : Bytes) (succeeded : Prop)
    (taken held : Bytes) : Prop extends Passes s t output.handle taken held where
  all : succeeded → taken ++ held = output.held ++ bytes
  lands : succeeded → taken ≠ [] → HasFile s output.handle
  reliable : Reliable σ .append → HasFile s output.handle → succeeded

namespace Passes

variable {u : σ} {handle : Location} {taken held more kept : Bytes}

/-- Nothing has to happen. -/
theorem refl (h : (directory s).output = some output) :
    Passes s s output.handle [] output.held where
  disk_eq := (Disk.append_nil _ _).symm
  directory_eq := by rw [← h]

/-- What reaches a file in two steps adds up. -/
theorem trans (h : Passes s t handle taken held) (hnext : Passes t u handle more kept) :
    Passes s u handle (taken ++ more) kept where
  disk_eq := by rw [hnext.disk_eq, h.disk_eq, Disk.append_append]
  directory_eq := by rw [hnext.directory_eq, h.directory_eq]

/-- The file that is open afterwards. -/
theorem output_eq (h : Passes s t handle taken held) :
    (directory t).output = some { handle, held } := by
  rw [h.directory_eq]

/-- What is at a place after bytes reached it is what was there with these bytes. -/
theorem file (h : Passes s t handle taken held) {contents : Bytes}
    (hfile : Disk.entry? (disk s) handle = some (.file contents)) :
    Disk.entry? (disk t) handle = some (.file (contents ++ taken)) := by
  rw [h.disk_eq]
  exact Disk.entry?_append_of_file hfile taken

/-- A file is there afterwards when one was there before, and only then. -/
theorem hasFile_iff (h : Passes s t handle taken held) : HasFile t handle ↔ HasFile s handle := by
  constructor
  · rintro ⟨contents, hfile⟩
    by_contra hnone
    rw [h.disk_eq, (Disk.append_of_no_file (fun c hc => hnone ⟨c, hc⟩) taken).2] at hfile
    exact hnone ⟨contents, hfile⟩
  · rintro ⟨contents, hfile⟩
    exact ⟨_, h.file hfile⟩

end Passes

/-- Two steps that bring bytes, the second of them only after the first has succeeded. -/
theorem Brings.trans {u : σ} {bytes rest taken held more kept : Bytes} {first second : Prop}
    (h : Brings s t output bytes first taken held) (hfirst : first)
    (hnext : Brings t u { handle := output.handle, held } rest second more kept) :
    Brings s u output (bytes ++ rest) second (taken ++ more) kept where
  toPasses := h.toPasses.trans hnext.toPasses
  all hsecond := by
    rw [List.append_assoc, hnext.all hsecond, ← List.append_assoc, h.all hfirst,
      List.append_assoc]
  lands hsecond hne := by
    by_cases htaken : taken = []
    · rw [htaken, List.nil_append] at hne
      exact h.toPasses.hasFile_iff.mp (hnext.lands hsecond hne)
    · exact h.lands hfirst htaken
  reliable hreliable hfile := hnext.reliable hreliable (h.toPasses.hasFile_iff.mpr hfile)

/-- One write to the file that is open: all bytes reach it, or some may have and the failure is
told. -/
theorem append_passes {bytes : Bytes} {r : Except Fault Unit}
    (hopen : (directory s).output = some output)
    (h : (Volume.append output.handle bytes : StateM σ (Except Fault Unit)).run s = (r, t)) :
    ∃ taken, Passes s t output.handle taken output.held ∧
      (r = .ok () → taken = bytes ∧ HasFile s output.handle) ∧
      (Reliable σ .append → HasFile s output.handle → r = .ok ()) := by
  obtain ⟨hdirectory, hdisk⟩ := append_spec _ _ _ _ _ h
  have hsame : directory t = { directory s with
      output := some { handle := output.handle, held := output.held } } := by
    rw [hdirectory, ← hopen]
  rcases hdisk with ⟨hr, hdisk⟩ | ⟨hunreliable, ⟨fault, rfl⟩, taken, hdisk⟩
  · by_cases hfile : HasFile s output.handle
    · obtain ⟨contents, hcontents⟩ := hfile
      rw [Disk.append_of_file hcontents] at hr
      exact ⟨bytes, ⟨hdisk, hsame⟩, fun _ => ⟨rfl, contents, hcontents⟩, fun _ _ => hr⟩
    · have hnone := Disk.append_of_no_file (fun c hc => hfile ⟨c, hc⟩) bytes
      obtain ⟨⟨fault, hfault⟩, hunchanged⟩ := hnone
      refine ⟨bytes, ⟨hdisk, hsame⟩, fun hok => ?_, fun _ hhas => absurd hhas hfile⟩
      rw [hr, hfault] at hok
      cases hok
  · exact ⟨taken, ⟨hdisk, hsame⟩, by simp, fun hreliable => absurd hreliable hunreliable⟩

/-- Writing out what is held back leaves nothing held back, if it succeeds. With nothing held back
there is nothing to write. -/
theorem flushHeld_brings {r : Except Fault Unit} (hopen : (directory s).output = some output)
    (h : (flushHeld : StateM σ (Except Fault Unit)).run s = (r, t)) :
    ∃ taken held, Brings s t output [] (r = .ok ()) taken held ∧ (r = .ok () → held = []) ∧
      (output.held = [] → taken = []) := by
  simp only [flushHeld, run_bind, run_get, hopen] at h
  by_cases hempty : output.held = []
  · simp only [hempty, List.isEmpty_nil, if_true, run_pure] at h
    obtain ⟨rfl, rfl⟩ := h
    refine ⟨[], output.held, ⟨.refl hopen, ?_, ?_, ?_⟩, fun _ => hempty, fun _ => rfl⟩
    · simp
    · simp
    · simp
  · have hheld : output.held.isEmpty = false := by simpa using hempty
    simp only [hheld, Bool.false_eq_true, if_false, run_bind] at h
    rcases hwrite : (Volume.append output.handle output.held :
      StateM σ (Except Fault Unit)).run s with ⟨result, u⟩
    obtain ⟨taken, hpasses, hall, hreliable⟩ := append_passes hopen hwrite
    rw [hwrite] at h
    cases result with
    | error fault =>
      simp only [run_pure] at h
      obtain ⟨rfl, rfl⟩ := h
      refine ⟨taken, output.held, ⟨hpasses, ?_, ?_, ?_⟩, ?_, fun hnone => absurd hnone hempty⟩
      · simp
      · simp
      · exact hreliable
      · simp
    | ok =>
      obtain ⟨rfl, hfile⟩ := hall rfl
      rcases hclear : (setOutput (some { output with held := [] }) : StateM σ Unit).run u with
        ⟨_, v⟩
      simp only [run_bind, run_pure, hclear] at h
      obtain ⟨rfl, rfl⟩ := h
      obtain ⟨hdirectory, hdisk⟩ := setOutput_spec hclear
      refine ⟨output.held, [], ⟨⟨?_, ?_⟩, ?_, ?_, ?_⟩, fun _ => rfl, id⟩
      · rw [hdisk, hpasses.disk_eq]
      · rw [hdirectory, hpasses.directory_eq]
      · simp
      · exact fun _ _ => hfile
      · simp

/-- Bytes that do not fit beside what is held back are taken as a whole. -/
theorem writeLarge_brings {bytes : Bytes} {attempt : Attempt}
    (hopen : (directory s).output = some output)
    (hroom : bytes.length < capacity ∨ output.held = [])
    (h : (writeLarge bytes : StateM σ Attempt).run s = (attempt, t)) :
    (attempt = .accepted bytes.length ∨ ∃ fault, attempt = .failed fault) ∧
      ∃ taken held, Brings s t output bytes (attempt = .accepted bytes.length) taken held := by
  simp only [writeLarge, run_bind, run_get, hopen] at h
  by_cases hsmall : bytes.length < capacity
  · simp only [hsmall, if_true, run_bind] at h
    rcases hhold : (setOutput (some { output with held := output.held ++ bytes }) :
      StateM σ Unit).run s with ⟨_, u⟩
    simp only [hhold, run_pure] at h
    obtain ⟨rfl, rfl⟩ := h
    obtain ⟨hdirectory, hdisk⟩ := setOutput_spec hhold
    refine ⟨Or.inl rfl, [], output.held ++ bytes, ⟨⟨?_, hdirectory⟩, ?_, ?_, ?_⟩⟩
    · rw [hdisk, Disk.append_nil]
    · simp
    · simp
    · simp
  · have hheld : output.held = [] := hroom.resolve_left hsmall
    simp only [hsmall, if_false, run_bind] at h
    rcases hwrite : (Volume.append output.handle bytes :
      StateM σ (Except Fault Unit)).run s with ⟨result, u⟩
    obtain ⟨taken, hpasses, hall, hreliable⟩ := append_passes hopen hwrite
    rw [hwrite] at h
    cases result with
    | error fault =>
      simp only [run_pure] at h
      obtain ⟨rfl, rfl⟩ := h
      refine ⟨Or.inr ⟨fault, rfl⟩, taken, output.held, ⟨hpasses, ?_, ?_, ?_⟩⟩
      · simp
      · simp
      · exact fun happend hfile => absurd (hreliable happend hfile) (by simp)
    | ok =>
      simp only [run_pure] at h
      obtain ⟨rfl, rfl⟩ := h
      obtain ⟨rfl, hfile⟩ := hall rfl
      refine ⟨Or.inl rfl, taken, output.held, ⟨hpasses, ?_, ?_, ?_⟩⟩
      · simp [hheld]
      · exact fun _ _ => hfile
      · simp

/-- Every piece of bytes is taken as a whole or not at all. -/
theorem offer_brings {bytes : Bytes} {attempt : Attempt}
    (hopen : (directory s).output = some output)
    (h : (offer bytes : StateM σ Attempt).run s = (attempt, t)) :
    (attempt = .accepted bytes.length ∨ ∃ fault, attempt = .failed fault) ∧
      ∃ taken held, Brings s t output bytes (attempt = .accepted bytes.length) taken held := by
  simp only [offer, run_bind, run_get, hopen] at h
  by_cases hfits : bytes.length < capacity - output.held.length
  · simp only [hfits, if_true, run_bind] at h
    rcases hhold : (setOutput (some { output with held := output.held ++ bytes }) :
      StateM σ Unit).run s with ⟨_, u⟩
    simp only [hhold, run_pure] at h
    obtain ⟨rfl, rfl⟩ := h
    obtain ⟨hdirectory, hdisk⟩ := setOutput_spec hhold
    refine ⟨Or.inl rfl, [], output.held ++ bytes, ⟨⟨?_, hdirectory⟩, ?_, ?_, ?_⟩⟩
    · rw [hdisk, Disk.append_nil]
    · simp
    · simp
    · simp
  · simp only [hfits, if_false] at h
    by_cases hover : capacity - output.held.length < bytes.length
    · simp only [hover, if_true, run_bind] at h
      rcases hflush : (flushHeld : StateM σ (Except Fault Unit)).run s with ⟨result, u⟩
      obtain ⟨taken, held, hflushed, hheld, _⟩ := flushHeld_brings hopen hflush
      rw [hflush] at h
      cases result with
      | error fault =>
        simp only [run_pure] at h
        obtain ⟨rfl, rfl⟩ := h
        refine ⟨Or.inr ⟨fault, rfl⟩, taken, held, ⟨hflushed.toPasses, ?_, ?_, ?_⟩⟩
        · simp
        · simp
        · exact fun happend hfile => absurd (hflushed.reliable happend hfile) (by simp)
      | ok =>
        obtain ⟨hattempt, more, kept, hlarge⟩ :=
          writeLarge_brings hflushed.toPasses.output_eq (Or.inr (hheld rfl)) h
        exact ⟨hattempt, taken ++ more, kept,
          List.nil_append bytes ▸ hflushed.trans rfl hlarge⟩
    · simp only [hover, if_false] at h
      -- The bytes fill the room exactly: they are held back unless nothing else is.
      refine writeLarge_brings hopen ?_ h
      by_cases hnone : output.held = []
      · exact Or.inr hnone
      · left
        have hpositive := List.length_pos_of_ne_nil hnone
        have hcapacity : 0 < capacity := by decide
        omega

/-- Offering until all is taken: the whole of the bytes is taken, or a failure is told. -/
theorem writeAll_brings {bytes : Bytes} {r : Except Fault Unit}
    (hopen : (directory s).output = some output)
    (h : ((filer : Filer (StateM σ)).writeAll bytes).run s = (r, t)) :
    ∃ taken held, Brings s t output bytes (r = .ok ()) taken held := by
  cases bytes with
  | nil =>
    simp only [Filer.writeAll, run_pure] at h
    obtain ⟨rfl, rfl⟩ := h
    exact ⟨[], output.held, .refl hopen, by simp, by simp, by simp⟩
  | cons b rest =>
    rw [Filer.writeAll, run_bind] at h
    rcases hoffer : ((filer : Filer (StateM σ)).write (b :: rest)).run s with ⟨attempt, u⟩
    obtain ⟨hattempt, taken, held, hbrings⟩ := offer_brings hopen hoffer
    rw [hoffer] at h
    rcases hattempt with rfl | ⟨fault, rfl⟩
    · simp only [Attempt.settle, List.length_cons, List.drop_length, Filer.writeAll, run_pure] at h
      obtain ⟨rfl, rfl⟩ := h
      exact ⟨taken, held, hbrings.toPasses, fun _ => hbrings.all rfl,
        fun _ => hbrings.lands rfl, fun _ _ => rfl⟩
    · simp only [Attempt.settle, run_pure] at h
      obtain ⟨rfl, rfl⟩ := h
      refine ⟨taken, held, hbrings.toPasses, by simp, by simp, ?_⟩
      exact fun happend hfile => absurd (hbrings.reliable happend hfile) (by simp)

/-- Writing a body and passing it on: in the end nothing is held back, or a failure is told. -/
theorem writeBody_brings {body : String} {r : Except Fault Unit}
    (hopen : (directory s).output = some output)
    (h : ((filer : Filer (StateM σ)).writeBody body).run s = (r, t)) :
    ∃ taken held, Brings s t output (Text.Utf8.encode body) (r = .ok ()) taken held ∧
      (r = .ok () → held = []) := by
  rw [Filer.writeBody, run_bind] at h
  rcases hwrite : ((filer : Filer (StateM σ)).writeAll (Text.Utf8.encode body)).run s with
    ⟨result, u⟩
  obtain ⟨taken, held, hbrings⟩ := writeAll_brings hopen hwrite
  rw [hwrite] at h
  cases result with
  | error fault =>
    simp only [run_pure] at h
    obtain ⟨rfl, rfl⟩ := h
    exact ⟨taken, held, hbrings, by simp⟩
  | ok =>
    obtain ⟨more, kept, hflushed, hkept, _⟩ := flushHeld_brings hbrings.toPasses.output_eq h
    exact ⟨taken ++ more, kept,
      List.append_nil (Text.Utf8.encode body) ▸ hbrings.trans rfl hflushed, hkept⟩

/-- Closing a file passes on what is held back from it, as far as that is possible. -/
theorem close_spec {r : Unit} (hopen : (directory s).output = some output)
    (h : (filer : Filer (StateM σ)).close.run s = (r, t)) :
    directory t = { directory s with output := none } ∧
      ∃ taken, disk t = ((disk s).append output.handle taken).2 ∧
        (output.held = [] → taken = []) ∧
        (Reliable σ .append → HasFile s output.handle → taken = output.held) := by
  simp only [filer, run_bind] at h
  rcases hflush : (flushHeld : StateM σ (Except Fault Unit)).run s with ⟨result, u⟩
  obtain ⟨taken, held, hbrings, hheld, hnone⟩ := flushHeld_brings hopen hflush
  rw [hflush] at h
  obtain ⟨hdirectory, hdisk⟩ := setOutput_spec h
  refine ⟨by rw [hdirectory, hbrings.directory_eq], taken, by rw [hdisk, hbrings.disk_eq],
    hnone, fun happend hfile => ?_⟩
  have hok := hbrings.reliable happend hfile
  have hall := hbrings.all hok
  rw [hheld hok, List.append_nil, List.append_nil] at hall
  exact hall

end Directory

end ToStringGen
