import ToStringGen.Proofs.Filer.Apart
import ToStringGen.Proofs.Java.Placement

/-!
# How a disk evolves

Filing at some paths takes a disk from state to state. Two paths may lead to one file
only after directories have been made, so what has to be asked of a disk is that no
two paths come to lead to the same file. Without links they never do.
-/

namespace ToStringGen

open Text (Bytes)

namespace Disk

/-- The disks that filing at some paths can make of a disk, step by step, whatever fails. -/
inductive Evolves (paths : List Path) (disk : Disk) : Disk → Prop
  | start : Evolves paths disk disk
  | makeDirectory {now : Disk} {path : Path} {front : List Path.Component}
      (h : Evolves paths disk now) (hpath : path ∈ paths) (hfront : front <+: path.components) :
      Evolves paths disk (now.makeDirectory (Path.ofComponents front)).2
  | create {now : Disk} {path : Path} (h : Evolves paths disk now) (hpath : path ∈ paths) :
      Evolves paths disk (now.create path).2
  | append {now : Disk} {path : Path} {place : Location} {entry : Entry} (bytes : Bytes)
      (h : Evolves paths disk now) (hpath : path ∈ paths)
      (hlocate : now.locate true path = .ok (.occupied place entry)) :
      Evolves paths disk (now.append place bytes).2
  | remove {now : Disk} {path : Path} (h : Evolves paths disk now) (hpath : path ∈ paths) :
      Evolves paths disk (now.remove path).2

/-- No two of the paths lead to the same file, now or after any filing at them. -/
def KeepsApart (disk : Disk) (paths : List Path) : Prop :=
  ∀ now, Evolves paths disk now →
    ∀ path ∈ paths, ∀ other ∈ paths, path ≠ other → now.Apart path other

variable {paths : List Path} {path : Path} {disk now : Disk}

/-- Filing at one of the paths takes a disk to what filing at them can make of it. -/
theorem filingPreserves_evolves (disk : Disk) (hpath : path ∈ paths) :
    FilingPreserves path (Evolves paths disk) where
  makeDirectory _ _ hfront h := h.makeDirectory hpath hfront
  create _ h := h.create hpath
  append _ _ _ bytes hlocate h := h.append bytes hpath hlocate
  remove _ _ _ _ _ h := h.remove hpath

/-- There are no links. -/
def HasNoLink (disk : Disk) : Prop :=
  ∀ location target, disk.entry? location ≠ some (.link target)

/-- Filing makes no links. -/
theorem Evolves.hasNoLink (h : Evolves paths disk now) (hdisk : disk.HasNoLink) :
    now.HasNoLink := by
  induction h with
  | start => exact hdisk
  | @makeDirectory now path front _ _ _ ih =>
    intro location target hlink
    exact ih location target ((keeps_makeDirectory now _).links location target hlink)
  | @create now path _ _ ih =>
    intro location target hlink
    exact ih location target ((keeps_create now path).links location target hlink)
  | @append now path place entry bytes _ _ _ ih =>
    intro location target hlink
    exact ih location target ((keeps_append now place bytes).links location target hlink)
  | @remove now path _ _ ih =>
    intro location target hlink
    unfold Disk.remove at hlink
    split at hlink
    · exact ih location target hlink
    · exact ih location target hlink
    · exact ih location target hlink
    · next place entry hplain hlocate =>
      have hplace : place ≠ [] :=
        ne_nil_of_entry_eq_some (entry?_of_locate hlocate) hplain
      change entry? (now.erase place) location = some (.link target) at hlink
      rw [entry?_erase now hplace] at hlink
      split at hlink
      · exact Option.some_ne_none _ hlink.symm
      · exact ih location target hlink

variable {last : Bool} {links : Nat} {location : Location} {names : List String} {spot : Spot}

/-- Where there are no links, plain names lead to the place that they spell. -/
theorem Walk.place_eq (h : Walk disk last links location names spot)
    (hnames : ∀ name ∈ names, Path.IsName name)
    (hlink : ∀ below target, disk.entry? (location ++ below) ≠ some (.link target)) :
    spot.place = location ++ names := by
  induction h with
  | arrive => simp [Spot.place]
  | stay => exact absurd rfl (hnames _ (List.mem_cons_self ..)).ne_here
  | rise => exact absurd rfl (hnames _ (List.mem_cons_self ..)).ne_up
  | free => rfl
  | halt _ _ hfound => exact absurd hfound (hlink _ _)
  | turn _ _ hfound => exact absurd hfound (hlink _ _)
  | @descend _ location name entry rest spot _ _ _ _ _ ih =>
    have hrest := ih (fun other hmem => hnames other (List.mem_cons_of_mem _ hmem))
      fun below target => by
        rw [List.append_assoc]
        exact hlink _ target
    rw [hrest, List.append_assoc, List.singleton_append]

open Java Java.QualifiedName

/-- Where there are no links, different classes never come to have the same file. -/
theorem keepsApart_of_hasNoLink (h : disk.HasNoLink) (root : Path) {typeNames : List String}
    (hnames : ∀ name ∈ typeNames, isQualifiedIdentifier name = true) :
    disk.KeepsApart (typeNames.map fun name => root.join (sourcePath name)) := by
  intro now hnow path hpath other hother hne place contents hlocate hsame
  have hlinks := hnow.hasNoLink h
  obtain ⟨name, hname, rfl⟩ := List.mem_map.mp hpath
  obtain ⟨second, hsecond, rfl⟩ := List.mem_map.mp hother
  -- Both ways go through the same directory and spell the place from there.
  have hspells : ∀ name, isQualifiedIdentifier name = true → ∀ spot : Spot,
      now.locate true (root.join (sourcePath name)) = .ok spot →
      ∃ middle, Walk now true linkLimit (start root.text now.workingDirectory)
          ((root.front.filter (!·.isEmpty)).map String.ofList) (.occupied middle .directory) ∧
        spot.place = middle ++ sourceNames name := by
    intro name hname spot hspot
    have hplain : ∀ part ∈ sourceNames name, Path.IsName part :=
      fun part hmem => isName_of_mem_sourceNames hname hmem
    have hwalk := (locate_eq_ok_iff.mp hspot).2
    rw [sourcePath_eq hname, steps_join root hplain (sourceNames_ne_nil name),
      start_join root hplain (sourceNames_ne_nil name)] at hwalk
    obtain ⟨middle, hfront, hrest⟩ := hwalk.of_append (sourceNames_ne_nil name)
    exact ⟨middle, hfront, hrest.place_eq hplain fun below => hlinks _⟩
  obtain ⟨middle, hmiddle, hplace⟩ := hspells name (hnames name hname) _ hlocate
  obtain ⟨between, hbetween, hsamePlace⟩ := hspells second (hnames second hsecond) _ hsame
  obtain ⟨rfl, _⟩ := Spot.occupied.inj (hmiddle.unique hbetween)
  have hspelled : sourceNames name = sourceNames second :=
    List.append_cancel_left (hplace.symm.trans hsamePlace)
  exact hne (by rw [sourceNames_injective hspelled])

end Disk

end ToStringGen
