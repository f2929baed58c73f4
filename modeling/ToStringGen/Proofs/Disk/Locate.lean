import ToStringGen.Proofs.Disk.Change
import ToStringGen.Proofs.Path

/-!
# What operations on paths do

A path that is short enough and holds no character that ends texts leads where its
walk leads. Each operation on a path either keeps everything, or removes the file or
link at the end of it and leaves alone every path that leads elsewhere.
-/

namespace ToStringGen

/-- The texts that an operating system takes for paths at all. -/
structure Path.IsAdmissible (path : Path) : Prop where
  no_nul : '\x00' ∉ path.text.toList
  ne_empty : path.text ≠ ""
  size_lt : path.text.utf8ByteSize < Disk.pathLimit

instance (path : Path) : Decidable path.IsAdmissible :=
  decidable_of_iff
    ('\x00' ∉ path.text.toList ∧ path.text ≠ "" ∧ path.text.utf8ByteSize < Disk.pathLimit)
    ⟨fun ⟨hnul, hempty, hsize⟩ => ⟨hnul, hempty, hsize⟩,
      fun h => ⟨h.no_nul, h.ne_empty, h.size_lt⟩⟩

namespace Disk

variable {disk before after : Disk} {last : Bool} {path : Path} {spot : Spot}

/-- An admissible path is followed. -/
theorem locate_of_isAdmissible (h : path.IsAdmissible) :
    disk.locate last path =
      disk.follow last linkLimit (start path.text disk.workingDirectory) (steps path.text) := by
  unfold locate
  rw [if_neg (by simpa using h.no_nul), if_neg h.ne_empty, if_neg (Nat.not_le.mpr h.size_lt)]

/-- An admissible path leads where its walk leads, and no other path leads anywhere. -/
theorem locate_eq_ok_iff :
    disk.locate last path = .ok spot ↔ path.IsAdmissible ∧
      Walk disk last linkLimit (start path.text disk.workingDirectory) (steps path.text) spot := by
  constructor
  · intro h
    have hpath : path.IsAdmissible := by
      unfold locate at h
      split at h
      · simp at h
      · next hnul =>
        split at h
        · simp at h
        · next hempty =>
          split at h
          · simp at h
          · next hsize => exact ⟨by simpa using hnul, hempty, Nat.not_le.mp hsize⟩
    rw [locate_of_isAdmissible hpath, follow_eq_ok_iff] at h
    exact ⟨hpath, h⟩
  · rintro ⟨hpath, hwalk⟩
    rw [locate_of_isAdmissible hpath, follow_eq_ok_iff]
    exact hwalk

/-- A path leads to the same place when everything is kept. -/
theorem locate_of_keeps (hkeep : Keeps before after) (h : before.locate last path = .ok spot) :
    ∃ kept, after.locate last path = .ok kept ∧ kept.place = spot.place := by
  obtain ⟨hpath, hwalk⟩ := locate_eq_ok_iff.mp h
  obtain ⟨kept, hkept, hplace⟩ := hwalk.keep hkeep
  refine ⟨kept, locate_eq_ok_iff.mpr ⟨hpath, ?_⟩, hplace⟩
  rw [hkeep.workingDirectory]
  exact hkept

/-- What a path leads to is there. -/
theorem entry?_of_locate {place : Location} {entry : Entry}
    (h : disk.locate last path = .ok (.occupied place entry)) :
    disk.entry? place = some entry :=
  (locate_eq_ok_iff.mp h).2.entry?_eq

/-- What a free name is in is a directory. -/
theorem entry?_of_locate_vacant {directory : Location} {name : String}
    (h : disk.locate last path = .ok (.vacant directory name)) :
    disk.entry? (directory ++ [name]) = none :=
  (locate_eq_ok_iff.mp h).2.of_vacant.2.2

/-- The root is a directory, and nothing else lies there. -/
theorem ne_nil_of_entry_eq_some {place : Location} {entry : Entry}
    (h : disk.entry? place = some entry) (hne : entry ≠ .directory) : place ≠ [] := by
  rintro rfl
  rw [ entry?, if_pos rfl, Option.some.injEq] at h
  exact hne h.symm

/-- A file may take the place of another. -/
theorem keeps_put_file {place : Location} {contents : Text.Bytes}
    (h : disk.entry? place = some (.file contents)) (bytes : Text.Bytes) :
    Keeps disk (disk.put place (.file bytes)) := by
  refine .put (ne_nil_of_entry_eq_some h (by simp)) (by simp) fun old hold => ?_
  rw [h, Option.some.injEq] at hold
  exact hold ▸ ⟨bytes, rfl⟩

/-- A new entry may come to a free place. -/
theorem keeps_put_free {directory : Location} {name : String}
    (h : disk.entry? (directory ++ [name]) = none) {entry : Entry}
    (hlink : ∀ target, entry ≠ .link target) :
    Keeps disk (disk.put (directory ++ [name]) entry) := by
  refine .put (by simp) hlink fun old hold => ?_
  rw [h] at hold
  exact absurd hold.symm (Option.some_ne_none old)

/-- Making a directory takes nothing away. -/
theorem keeps_makeDirectory (disk : Disk) (path : Path) :
    Keeps disk (disk.makeDirectory path).2 := by
  unfold makeDirectory
  split
  · exact .refl disk
  · exact .refl disk
  · next hfree => exact keeps_put_free (entry?_of_locate_vacant hfree) (by simp)

/-- Opening a file takes nothing away but contents. -/
theorem keeps_create (disk : Disk) (path : Path) : Keeps disk (disk.create path).2 := by
  unfold create
  split
  · exact .refl disk
  · next hfree => exact keeps_put_free (entry?_of_locate_vacant hfree) (by simp)
  · next hfile => exact keeps_put_file (entry?_of_locate hfile) []
  · exact .refl disk
  · exact .refl disk
  · exact .refl disk

/-- Writing takes nothing away. -/
theorem keeps_append (disk : Disk) (location : Location) (bytes : Text.Bytes) :
    Keeps disk (disk.append location bytes).2 := by
  unfold append
  split
  · next hfile => exact keeps_put_file hfile _
  · exact .refl disk
  · exact .refl disk

/-- A path that ends with a slash has an empty last part. -/
theorem getLast?_parts_of_slash {path : Path} (h : path.text.toList.getLast? = some '/') :
    path.parts.getLast? = some [] := by
  obtain ⟨before, hbefore⟩ := List.getLast?_eq_some_iff.mp h
  rw [Path.parts, hbefore, Text.segments_append_cons]
  simp [Text.segments]

/-- The names that a path asks to be followed are its parts that are not empty, and a dot for a
slash at its end. -/
theorem steps_eq (path : Path) :
    steps path.text =
      (path.parts.filter (!·.isEmpty)).map String.ofList ++
        if path.text.toList.getLast? = some '/' then ["."] else [] := by
  unfold steps Path.parts
  split <;> simp

/-- Names after a path are followed after what the path asks for, less a dot at its end. -/
theorem steps_join (root : Path) {names : List String} (h : ∀ name ∈ names, Path.IsName name)
    (hne : names ≠ []) :
    steps (root.join ⟨String.intercalate "/" names⟩).text =
      (root.front.filter (!·.isEmpty)).map String.ofList ++ names := by
  have hparts := Path.parts_join root h hne
  have hempty : ∀ name ∈ names, name.toList ≠ [] := fun name hmem heq =>
    (h name hmem).ne_empty (String.toList_eq_nil_iff.mp heq)
  have hslash : (root.join ⟨String.intercalate "/" names⟩).text.toList.getLast? ≠ some '/' := by
    intro hlast
    have hnil := getLast?_parts_of_slash hlast
    rw [hparts, List.getLast?_append, List.getLast?_map] at hnil
    obtain ⟨front, name, rfl⟩ := (List.eq_nil_or_concat names).resolve_left hne
    simp at hnil
    exact (h name (by simp)).ne_empty hnil
  have hkept : (names.map String.toList).filter (!·.isEmpty) = names.map String.toList := by
    refine List.filter_eq_self.mpr fun part hpart => ?_
    obtain ⟨name, hmem, rfl⟩ := List.mem_map.mp hpart
    simpa using hempty name hmem
  rw [steps_eq, if_neg hslash, hparts, List.filter_append, hkept]
  simp

/-- A path with names appended to it starts where the path itself starts. -/
theorem start_join (root : Path) {names : List String} (h : ∀ name ∈ names, Path.IsName name)
    (hne : names ≠ []) (current : Location) :
    start (root.join ⟨String.intercalate "/" names⟩).text current = start root.text current := by
  have hrelative := Path.head?_intercalate_names h hne
  have hhead : (root.join ⟨String.intercalate "/" names⟩).text.toList.head? = some '/' ↔
      root.text.toList.head? = some '/' := by
    unfold Path.join Path.push
    rw [if_neg hrelative]
    cases hlast : root.text.toList.getLast? with
    | none =>
      have hempty : root.text.toList.head? = none := by
        rw [List.getLast?_eq_none_iff.mp hlast, List.head?_nil]
      rw [hempty]
      exact iff_of_false hrelative (by simp)
    | some c =>
      obtain ⟨before, hbefore⟩ := List.getLast?_eq_some_iff.mp hlast
      split <;> simp_all
  unfold start
  simp only [hhead]

section Removing

variable {links : Nat} {directory place : Location} {name : String} {entry : Entry}

/-- Whatever goes through a name that does not lead to a directory ends there. -/
theorem Walk.place_eq_of_through
    (h : Walk disk true links directory [name] (.occupied place entry)) (hne : entry ≠ .directory)
    {more : Nat} {rest : List String} {stop : Spot}
    (hthrough : Walk disk true more directory (name :: rest) stop) : stop.place = place := by
  by_cases hrest : rest = []
  · subst hrest
    rw [hthrough.unique h]
    rfl
  · rw [← List.singleton_append] at hthrough
    obtain ⟨middle, hmiddle, _⟩ := hthrough.of_append hrest
    have hsame := hmiddle.unique h
    simp only [Spot.occupied.injEq] at hsame
    exact absurd hsame.2.symm hne

/-- A name that leads to something that is no directory has an entry that is none. Without a link
it is where the name leads. -/
theorem Walk.exists_entry
    (h : Walk disk true links directory [name] (.occupied place entry)) (hname : Path.IsName name)
    (hne : entry ≠ .directory) :
    ∃ found, disk.entry? (directory ++ [name]) = some found ∧ found ≠ .directory ∧
      ((∀ target, found ≠ .link target) → place = directory ++ [name]) ∧ IsEntryName name := by
  cases h with
  | stay => exact absurd rfl hname.ne_here
  | rise => exact absurd rfl hname.ne_up
  | halt _ hentryName hfound hnot => exact Bool.noConfusion hnot
  | turn _ hentryName hfound =>
    exact ⟨_, hfound, by simp, fun hplain => absurd rfl (hplain _), hentryName⟩
  | descend _ hentryName hfound hplain harrive =>
    cases harrive with
    | arrive hentry => exact ⟨entry, hentry, hne, fun _ => rfl, hentryName⟩

/-- Removing what a path with a name at its end leads to, if that is neither a directory nor a
link, succeeds and frees the name. Paths that lead elsewhere, and not to a link, are left
alone. -/
theorem remove_of_locate {front : List String} (hsteps : steps path.text = front ++ [name])
    (hname : Path.IsName name) (h : disk.locate true path = .ok (.occupied place entry))
    (hne : entry ≠ .directory) :
    ∃ directory,
      disk.remove path = (.ok (), disk.erase (directory ++ [name])) ∧
      (disk.erase (directory ++ [name])).locate true path = .ok (.vacant directory name) ∧
      ∀ other spot, disk.locate true other = .ok spot → spot.place ≠ place →
        (∀ target, spot ≠ .occupied spot.place (.link target)) →
        (disk.erase (directory ++ [name])).locate true other = .ok spot := by
  obtain ⟨hpath, hwalk⟩ := locate_eq_ok_iff.mp h
  rw [hsteps] at hwalk
  obtain ⟨directory, hfront, hlast⟩ := hwalk.of_append (by simp)
  have hdirectory := hlast.directory_of_ne_nil (by simp)
  obtain ⟨found, hfound, hfoundNe, hplain, hentryName⟩ := hlast.exists_entry hname hne
  have hstop : Walk disk false 0 directory [name] (.occupied (directory ++ [name]) found) := by
    cases found with
    | link target => exact .halt hdirectory hentryName hfound rfl
    | _ => exact .descend hdirectory hentryName hfound (by simp) (.arrive hfound)
  have hunfollowed : disk.locate false path = .ok (.occupied (directory ++ [name]) found) := by
    refine locate_eq_ok_iff.mpr ⟨hpath, ?_⟩
    rw [hsteps]
    exact hfront.append (by simp) hstop
  have hleft : ∀ links location names spot, Walk disk true links location names spot →
      spot.place ≠ place → (∀ target, spot ≠ .occupied spot.place (.link target)) →
      Walk (disk.erase (directory ++ [name])) true links location names spot :=
    fun links location names spot hwalk hplace hspot =>
      hwalk.erase hfound hfoundNe hplain (fun _ _ _ => hlast.place_eq_of_through hne) hplace hspot
  refine ⟨directory, ?_, locate_eq_ok_iff.mpr ⟨hpath, ?_⟩, fun other spot hother hplace hspot => ?_⟩
  · unfold remove
    rw [hunfollowed]
    cases found with
    | directory => exact absurd rfl hfoundNe
    | _ => rfl
  · have hapart : directory ≠ place := by
      rintro rfl
      rw [hlast.entry?_eq, Option.some.injEq] at hdirectory
      exact hne hdirectory
    have hkept := hleft _ _ _ _ hfront hapart (by simp)
    rw [hsteps]
    refine hkept.append (by simp) (.free hkept.entry?_eq hentryName ?_)
    rw [entry?_erase disk (by simp), if_pos rfl]
  · obtain ⟨hotherPath, hotherWalk⟩ := locate_eq_ok_iff.mp hother
    exact locate_eq_ok_iff.mpr ⟨hotherPath, hleft _ _ _ _ hotherWalk hplace hspot⟩

end Removing

end Disk

end ToStringGen
