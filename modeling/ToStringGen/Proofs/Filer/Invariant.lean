import ToStringGen.Proofs.Filer.OnDisk

/-!
# What filing preserves

To write one artifact, directories are made above its path, and the file at its path
is created, written to and perhaps removed. What each of these steps preserves of a
disk is preserved by the filing as a whole, however much of it fails.
-/

namespace ToStringGen

open Text (Bytes)
open Log (FilingEvent)

/-- What a path may lead to when a file has been opened there. -/
def Entry.IsOpenable : Entry → Prop
  | file _ => True
  | full => True
  | _ => False

namespace Entry.IsOpenable

variable {entry : Entry}

/-- A directory cannot be opened for writing. -/
theorem ne_directory (h : entry.IsOpenable) : entry ≠ .directory := by
  rintro rfl
  exact h

/-- What an opened file is replaced with can be opened too. -/
theorem of_sameKind {other : Entry} (h : entry.IsOpenable) (hkind : entry.SameKind other) :
    other.IsOpenable := by
  cases entry with
  | file contents => obtain ⟨contents, rfl⟩ := hkind; trivial
  | full => cases hkind; trivial
  | directory => exact h.elim
  | link target => exact h.elim

end Entry.IsOpenable

/-- Every step that is taken to file something at a path preserves a property of disks. -/
structure FilingPreserves (path : Path) (P : Disk → Prop) : Prop where
  makeDirectory : ∀ disk front, front <+: path.components → P disk →
    P (disk.makeDirectory (Path.ofComponents front)).2
  create : ∀ disk, P disk → P (disk.create path).2
  append : ∀ disk place entry bytes, disk.locate true path = .ok (.occupied place entry) →
    P disk → P (disk.append place bytes).2
  remove : ∀ disk place entry, disk.locate true path = .ok (.occupied place entry) →
    entry.IsOpenable → P disk → P (disk.remove path).2

variable {σ : Type} [Volume Location (StateM σ)] [MonadStateOf (Directory Location) (StateM σ)]
  [OnDisk σ] {s t : σ} {P : Disk → Prop}

open OnDisk

/-- An action that preserves a property of the disk and leaves the output directory as it is. -/
def Preserves (P : Disk → Prop) {α : Type} (action : StateM σ α) : Prop :=
  ∀ s, P (disk s) → P (disk (action.run s).2) ∧ directory (action.run s).2 = directory s

namespace Preserves

variable {α β : Type}

/-- A result that is there preserves everything. -/
theorem pure (result : α) : Preserves P (Pure.pure result : StateM σ α) :=
  fun _ hs => ⟨hs, rfl⟩

/-- Two actions preserve what each of them preserves. -/
theorem bind {first : StateM σ α} {next : α → StateM σ β} (h : Preserves P first)
    (hnext : ∀ result, Preserves P (next result)) : Preserves P (first >>= next) := by
  intro s hs
  obtain ⟨hmiddle, hdirectory⟩ := h s hs
  obtain ⟨hend, hsame⟩ := hnext _ _ hmiddle
  exact ⟨hend, hsame.trans hdirectory⟩

/-- Looking whether there is a directory preserves everything. -/
theorem isDirectory (path : Path) : Preserves P (Volume.isDirectory path : StateM σ Bool) := by
  intro s hs
  rcases hrun : (Volume.isDirectory path : StateM σ Bool).run s with ⟨r, t⟩
  rw [(isDirectory_spec path s r t hrun).2]
  exact ⟨hs, rfl⟩

/-- Making a directory preserves what it preserves of the disk, whether it goes wrong or not. -/
theorem makeDirectory {path : Path} (hP : ∀ disk, P disk → P (disk.makeDirectory path).2) :
    Preserves P (Volume.makeDirectory path : StateM σ (Except Fault Unit)) := by
  intro s hs
  obtain ⟨hdirectory, hdisk⟩ := makeDirectory_spec path s _ _ rfl
  refine ⟨?_, hdirectory⟩
  rcases hdisk with ⟨_, heq⟩ | ⟨_, _, heq⟩
  · exact heq ▸ hP _ hs
  · exact heq ▸ hs

/-- Making directories from the outermost missing one inwards preserves what making each of them
preserves. -/
theorem makeTree {components : List Path.Component}
    (hP : ∀ disk front, front <+: components.reverse → P disk →
      P (disk.makeDirectory (Path.ofComponents front)).2) :
    Preserves P (Volume.makeTree components : StateM σ (Except Fault Unit)) := by
  induction components with
  | nil => exact .pure _
  | cons component above ih =>
    have hmake := makeDirectory (σ := σ) fun disk hdisk =>
      hP disk _ (List.prefix_refl (component :: above).reverse) hdisk
    have habove := ih fun disk front hfront => hP disk front
      (hfront.trans (List.reverse_cons ▸ List.prefix_append above.reverse [component]))
    rw [Volume.makeTree]
    refine hmake.bind fun result => ?_
    split
    · exact .pure _
    · split
      · refine habove.bind fun result => ?_
        split
        · exact .pure _
        · refine hmake.bind fun result => ?_
          split
          · exact .pure _
          · exact (isDirectory _).bind fun there => .pure _
      · exact (isDirectory _).bind fun there => .pure _

/-- Making the directories above a path preserves what the filing at the path preserves. -/
theorem makeParents {path : Path} (hP : FilingPreserves path P) :
    Preserves P (Volume.makeParents path : StateM σ (Except Fault Unit)) := by
  unfold Volume.makeParents
  split
  · exact .pure _
  · next parent hparent =>
    refine makeTree fun disk front hfront => hP.makeDirectory disk front ?_
    rw [Path.components_parent? hparent, List.reverse_reverse] at hfront
    exact hfront.trans (List.dropLast_prefix _)

end Preserves

end ToStringGen
