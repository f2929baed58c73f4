import ToStringGen.Proofs.Filer.Invariant

/-!
# Files of their own

As long as two paths never lead to the same file, filing at the one leaves alone what
the other leads to: a file keeps its contents, and where no file was left there is
none later.
-/

namespace ToStringGen

open Text (Bytes)

namespace Disk

/-- Two paths do not lead to the same file. -/
def Apart (disk : Disk) (path other : Path) : Prop :=
  ∀ place contents, disk.locate true path = .ok (.occupied place (.file contents)) →
    disk.locate true other ≠ .ok (.occupied place (.file contents))

/-- A path leads to a file with certain contents. -/
def Holds (disk : Disk) (path : Path) (contents : Bytes) : Prop :=
  ∃ place, disk.locate true path = .ok (.occupied place (.file contents))

/-- A path leads to a free name, or to a directory. -/
inductive HoldsNone (disk : Disk) (path : Path) : Prop
  | vacant (directory : Location) (name : String)
      (hlocate : disk.locate true path = .ok (.vacant directory name))
  | directory (place : Location)
      (hlocate : disk.locate true path = .ok (.occupied place .directory))

variable {disk : Disk} {path other : Path} {contents : Bytes} {place : Location} {entry : Entry}

/-- What a file holds is read. -/
theorem Holds.read_eq (h : disk.Holds path contents) : disk.read path = .ok contents := by
  obtain ⟨place, hlocate⟩ := h
  rw [read, hlocate]

/-- A path that leads to a file leads to what lies at its place. -/
theorem locate_of_found (h : disk.locate true path = .ok (.occupied place entry))
    {found : Entry} (hfound : disk.entry? place = some found) :
    disk.locate true path = .ok (.occupied place found) := by
  rw [entry?_of_locate h, Option.some.injEq] at hfound
  rw [h, hfound]

/-- The path of a file that was opened where another path leads leads to the same file. -/
theorem not_apart_of_create {spot : Spot} (hother : disk.locate true other = .ok spot)
    (hcreate : (disk.create path).1 = .ok spot.place)
    (hfile : entry? (disk.create path).2 spot.place = some (.file [])) :
    ¬(disk.create path).2.Apart path other := by
  intro hapart
  obtain ⟨entry, hlocate, _⟩ := locate_of_create hcreate
  have hsame := locate_of_found hlocate hfile
  exact hapart _ _ hsame (locate_occupied_of_keeps (keeps_create disk path) hother hfile)

/-- Removing what a path leads to leaves alone what another path leads to elsewhere. -/
theorem locate_remove {front : List String} {name : String} {spot : Spot}
    (hsteps : steps path.text = front ++ [name]) (hname : Path.IsName name)
    (h : disk.locate true path = .ok (.occupied place entry)) (hentry : entry.IsOpenable)
    (hother : disk.locate true other = .ok spot) (hplace : spot.place ≠ place)
    (hlink : ∀ target, spot ≠ .occupied spot.place (.link target)) :
    (disk.remove path).2.locate true other = .ok spot := by
  obtain ⟨directory, hremove, _, hleft⟩ :=
    remove_of_locate hsteps hname h hentry.ne_directory
  rw [hremove]
  exact hleft other spot hother hplace hlink

end Disk

namespace FilingPreserves

variable {path other : Path} {P : Disk → Prop} {front : List String} {name : String}

open Disk

/-- Filing at a path preserves the contents of a file at another path that stays apart. -/
theorem and_holds (hP : FilingPreserves path P) (hsteps : steps path.text = front ++ [name])
    (hname : Path.IsName name) (hapart : ∀ disk, P disk → disk.Apart path other)
    (contents : Bytes) : FilingPreserves path fun disk => P disk ∧ disk.Holds other contents where
  makeDirectory disk front hfront := by
    rintro ⟨hdisk, place, hlocate⟩
    refine ⟨hP.makeDirectory disk front hfront hdisk, place, ?_⟩
    have hfile := entry?_of_locate hlocate
    refine locate_occupied_of_keeps (keeps_makeDirectory _ _) hlocate ?_
    rcases entry?_makeDirectory disk (Path.ofComponents front) place with hsame | ⟨hfree, _⟩
    · exact hsame.trans hfile
    · rw [hfile] at hfree
      exact absurd hfree (Option.some_ne_none _)
  create disk := by
    rintro ⟨hdisk, place, hlocate⟩
    have hcreated := hP.create disk hdisk
    refine ⟨hcreated, place, ?_⟩
    refine locate_occupied_of_keeps (keeps_create _ _) hlocate ?_
    rcases entry?_create disk path place with hsame | ⟨hopened, hempty⟩
    · exact hsame.trans (entry?_of_locate hlocate)
    · exact absurd (hapart _ hcreated) (not_apart_of_create hlocate hopened hempty)
  append disk place entry bytes hpath := by
    rintro ⟨hdisk, otherPlace, hlocate⟩
    refine ⟨hP.append disk place entry bytes hpath hdisk, otherPlace, ?_⟩
    refine locate_occupied_of_keeps (keeps_append _ _ _) hlocate ?_
    rcases entry?_append disk place bytes otherPlace with hsame | ⟨rfl, _⟩
    · exact hsame.trans (entry?_of_locate hlocate)
    · exact absurd hlocate
        (hapart disk hdisk _ _ (locate_of_found hpath (entry?_of_locate hlocate)))
  remove disk place entry hpath hentry := by
    rintro ⟨hdisk, otherPlace, hlocate⟩
    refine ⟨hP.remove disk place entry hpath hentry hdisk, otherPlace, ?_⟩
    refine locate_remove hsteps hname hpath hentry hlocate ?_ (by simp)
    rintro rfl
    exact hapart disk hdisk _ _ (locate_of_found hpath (entry?_of_locate hlocate)) hlocate

/-- Filing at a path makes no file at another path that stays apart and has none. -/
theorem and_holdsNone (hP : FilingPreserves path P) (hsteps : steps path.text = front ++ [name])
    (hname : Path.IsName name) (hapart : ∀ disk, P disk → disk.Apart path other) :
    FilingPreserves path fun disk => P disk ∧ disk.HoldsNone other where
  makeDirectory disk front hfront := by
    rintro ⟨hdisk, hnone⟩
    refine ⟨hP.makeDirectory disk front hfront hdisk, ?_⟩
    have hkeep := keeps_makeDirectory disk (Path.ofComponents front)
    rcases hnone with ⟨directory, free, hlocate⟩ | ⟨place, hlocate⟩
    · have hfree := entry?_of_locate_vacant hlocate
      rcases entry?_makeDirectory disk (Path.ofComponents front) (directory ++ [free]) with
        hsame | ⟨_, hmade⟩
      · exact .vacant directory free (locate_vacant_of_keeps hkeep hlocate (hsame.trans hfree))
      · exact .directory _ (locate_occupied_of_keeps hkeep hlocate hmade)
    · have hdirectory := hkeep.directory (entry?_of_locate hlocate)
      exact .directory place (locate_occupied_of_keeps hkeep hlocate hdirectory)
  create disk := by
    rintro ⟨hdisk, hnone⟩
    have hcreated := hP.create disk hdisk
    refine ⟨hcreated, ?_⟩
    have hkeep := keeps_create disk path
    rcases hnone with ⟨directory, free, hlocate⟩ | ⟨place, hlocate⟩
    · have hfree := entry?_of_locate_vacant hlocate
      rcases entry?_create disk path (directory ++ [free]) with hsame | ⟨hopened, hempty⟩
      · exact .vacant directory free (locate_vacant_of_keeps hkeep hlocate (hsame.trans hfree))
      · exact absurd (hapart _ hcreated) (not_apart_of_create hlocate hopened hempty)
    · have hdirectory := hkeep.directory (entry?_of_locate hlocate)
      exact .directory place (locate_occupied_of_keeps hkeep hlocate hdirectory)
  append disk place entry bytes hpath := by
    rintro ⟨hdisk, hnone⟩
    refine ⟨hP.append disk place entry bytes hpath hdisk, ?_⟩
    have hkeep := keeps_append disk place bytes
    rcases hnone with ⟨directory, free, hlocate⟩ | ⟨otherPlace, hlocate⟩
    · have hfree := entry?_of_locate_vacant hlocate
      rcases entry?_append disk place bytes (directory ++ [free]) with hsame | ⟨rfl, _, hfile⟩
      · exact .vacant directory free (locate_vacant_of_keeps hkeep hlocate (hsame.trans hfree))
      · rw [hfree] at hfile
        exact absurd hfile.symm (Option.some_ne_none _)
    · have hdirectory := hkeep.directory (entry?_of_locate hlocate)
      exact .directory otherPlace (locate_occupied_of_keeps hkeep hlocate hdirectory)
  remove disk place entry hpath hentry := by
    rintro ⟨hdisk, hnone⟩
    refine ⟨hP.remove disk place entry hpath hentry hdisk, ?_⟩
    have hthere := entry?_of_locate hpath
    rcases hnone with ⟨directory, free, hlocate⟩ | ⟨otherPlace, hlocate⟩
    · refine .vacant directory free
        (locate_remove hsteps hname hpath hentry hlocate ?_ (by simp))
      rintro rfl
      rw [show Spot.place (.vacant directory free) = directory ++ [free] from rfl,
        entry?_of_locate_vacant hlocate] at hthere
      exact Option.some_ne_none entry hthere.symm
    · refine .directory otherPlace
        (locate_remove hsteps hname hpath hentry hlocate ?_ (by simp))
      rintro rfl
      rw [show Spot.place (.occupied otherPlace .directory) = otherPlace from rfl,
        entry?_of_locate hlocate, Option.some.injEq] at hthere
      exact hentry.ne_directory hthere.symm

end FilingPreserves

end ToStringGen
