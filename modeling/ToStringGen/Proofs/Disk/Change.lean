import ToStringGen.Proofs.Disk.Walk

/-!
# What changes of a disk do to walks

Making directories, creating files and writing to them adds entries at free places
and changes the contents of files, but takes nothing away and adds no links. Every
path that led somewhere then leads to the same place. Removing a file, or a link to
one, leaves all paths alone that do not lead to that file.
-/

namespace ToStringGen

/-- Entries that a walk cannot tell apart: two files, or the same entry twice. -/
def Entry.SameKind : Entry → Entry → Prop
  | file _, other => ∃ contents, other = file contents
  | entry, other => other = entry

/-- The place that a path leads to, whether something is there or not. -/
def Spot.place : Spot → Location
  | occupied location _ => location
  | vacant directory name => directory ++ [name]

namespace Entry

/-- An entry is of the same kind as itself. -/
theorem SameKind.refl (entry : Entry) : entry.SameKind entry := by
  cases entry with
  | file contents => exact ⟨contents, rfl⟩
  | _ => rfl

/-- Only a directory is of the same kind as a directory. -/
theorem SameKind.eq_directory {entry : Entry} (h : directory.SameKind entry) :
    entry = .directory := h

/-- A link is of the same kind as the same link only. -/
theorem SameKind.eq_link {entry : Entry} {target : String} (h : (link target).SameKind entry) :
    entry = .link target := h

/-- An entry of the same kind as one that is no link is no link. -/
theorem SameKind.ne_link {entry other : Entry} (h : entry.SameKind other)
    (hlink : ∀ target, entry ≠ .link target) (target : String) : other ≠ .link target := by
  cases entry with
  | file contents => obtain ⟨contents, rfl⟩ := h; simp
  | link target => exact absurd rfl (hlink target)
  | _ => cases h; simp

end Entry

namespace Disk

/-- On a disk without entries there is the root only. -/
theorem entry?_empty (location : Location) :
    Disk.entry? {} location = if location = [] then some .directory else none := by
  simp [Disk.entry?]

/-- Relative paths start where they started. -/
@[simp] theorem workingDirectory_put (disk : Disk) (location : Location) (entry : Entry) :
    (disk.put location entry).workingDirectory = disk.workingDirectory := rfl

/-- What lies at a place after an entry was put at one of them. -/
theorem entry?_put (disk : Disk) {location : Location} (hne : location ≠ []) (entry : Entry)
    (other : Location) :
    entry? (disk.put location entry) other =
      if other = location then some entry else disk.entry? other := by
  unfold entry? put
  by_cases hroot : other = []
  · rw [if_pos hroot, if_pos hroot, if_neg (fun heq : other = location => hne (heq ▸ hroot))]
  · rw [if_neg hroot, if_neg hroot, Std.ExtTreeMap.getElem?_insert]
    by_cases heq : other = location
    · simp [heq]
    · rw [if_neg heq, if_neg]
      exact fun hcompare => heq (Std.LawfulEqCmp.eq_of_compare hcompare).symm

/-- Takes the entry at a place away. -/
def erase (disk : Disk) (location : Location) : Disk :=
  { disk with entries := disk.entries.erase location }

/-- What lies at a place after the entry at one of them was taken away. -/
theorem entry?_erase (disk : Disk) {location : Location} (hne : location ≠ [])
    (other : Location) :
    entry? (disk.erase location) other =
      if other = location then none else disk.entry? other := by
  unfold entry? erase
  by_cases hroot : other = []
  · rw [if_pos hroot, if_pos hroot, if_neg (fun heq : other = location => hne (heq ▸ hroot))]
  · rw [if_neg hroot, if_neg hroot, Std.ExtTreeMap.getElem?_erase]
    by_cases heq : other = location
    · simp [heq]
    · rw [if_neg heq, if_neg]
      exact fun hcompare => heq (Std.LawfulEqCmp.eq_of_compare hcompare).symm

/-- Nothing is taken away between two states of a disk, and no link is added. -/
structure Keeps (before after : Disk) : Prop where
  workingDirectory : after.workingDirectory = before.workingDirectory
  entries : ∀ location entry, before.entry? location = some entry →
    ∃ kept, after.entry? location = some kept ∧ entry.SameKind kept
  links : ∀ location target, after.entry? location = some (.link target) →
    before.entry? location = some (.link target)

namespace Keeps

/-- A disk keeps what it has. -/
theorem refl (disk : Disk) : Keeps disk disk :=
  ⟨rfl, fun _ entry hentry => ⟨entry, hentry, .refl entry⟩, fun _ _ hlink => hlink⟩

variable {before after : Disk} {location : Location}

/-- A directory stays one. -/
theorem directory (h : Keeps before after) (hdirectory : before.entry? location = some .directory) :
    after.entry? location = some .directory := by
  obtain ⟨kept, hkept, hkind⟩ := h.entries _ _ hdirectory
  rw [hkept, hkind.eq_directory]

/-- A link stays what it is. -/
theorem link (h : Keeps before after) {target : String}
    (hlink : before.entry? location = some (.link target)) :
    after.entry? location = some (.link target) := by
  obtain ⟨kept, hkept, hkind⟩ := h.entries _ _ hlink
  rw [hkept, hkind.eq_link]

/-- An entry at a free place, or a file in place of another, takes nothing away. -/
theorem put (hne : location ≠ []) {entry : Entry} (hlink : ∀ target, entry ≠ .link target)
    (hplace : ∀ old, before.entry? location = some old → old.SameKind entry) :
    Keeps before (before.put location entry) := by
  refine ⟨rfl, fun other old hold => ?_, fun other target hnew => ?_⟩
  · rw [entry?_put before hne]
    by_cases heq : other = location
    · exact ⟨entry, if_pos heq, hplace old (heq ▸ hold)⟩
    · exact ⟨old, by rw [if_neg heq, hold], .refl old⟩
  · rw [entry?_put before hne] at hnew
    split at hnew
    · exact absurd (Option.some.inj hnew) (hlink target)
    · exact hnew

end Keeps

variable {before after disk : Disk} {last : Bool} {links : Nat} {location : Location}
  {names : List String} {spot : Spot}

/-- Whatever leads to a place still leads there when everything is kept. -/
theorem Walk.keep (h : Walk before last links location names spot) (hkeep : Keeps before after) :
    ∃ kept, Walk after last links location names kept ∧ kept.place = spot.place := by
  induction h with
  | arrive hentry =>
    obtain ⟨entry, hkept, _⟩ := hkeep.entries _ _ hentry
    exact ⟨_, .arrive hkept, rfl⟩
  | stay hdirectory _ ih =>
    obtain ⟨kept, hwalk, hplace⟩ := ih
    exact ⟨kept, .stay (hkeep.directory hdirectory) hwalk, hplace⟩
  | rise hdirectory _ ih =>
    obtain ⟨kept, hwalk, hplace⟩ := ih
    exact ⟨kept, .rise (hkeep.directory hdirectory) hwalk, hplace⟩
  | @free _ location name hdirectory hname hfree =>
    have hdirectory := hkeep.directory hdirectory
    cases hentry : after.entry? (location ++ [name]) with
    | none => exact ⟨_, .free hdirectory hname hentry, rfl⟩
    | some entry =>
      refine ⟨_, .descend hdirectory hname hentry ?_ (.arrive hentry), rfl⟩
      rintro target rfl
      rw [hkeep.links _ _ hentry] at hfree
      exact Option.some_ne_none _ hfree
  | halt hdirectory hname hlink hlast =>
    exact ⟨_, .halt (hkeep.directory hdirectory) hname (hkeep.link hlink) hlast, rfl⟩
  | turn hdirectory hname hlink hfollowed _ ih =>
    obtain ⟨kept, hwalk, hplace⟩ := ih
    exact ⟨kept, .turn (hkeep.directory hdirectory) hname (hkeep.link hlink) hfollowed hwalk,
      hplace⟩
  | descend hdirectory hname hentry hlink _ ih =>
    obtain ⟨kept, hwalk, hplace⟩ := ih
    obtain ⟨entry, hkept, hkind⟩ := hkeep.entries _ _ hentry
    exact ⟨kept, .descend (hkeep.directory hdirectory) hname hkept (hkind.ne_link hlink) hwalk,
      hplace⟩

/-- A walk that ends at a place where something is ends with what is there. -/
theorem Walk.eq_occupied {place : Location} {entry : Entry}
    (h : Walk disk last links location names spot) (hplace : spot.place = place)
    (hentry : disk.entry? place = some entry) : spot = .occupied place entry := by
  cases spot with
  | occupied other found =>
    obtain rfl : other = place := hplace
    rw [h.entry?_eq, Option.some.injEq] at hentry
    rw [hentry]
  | vacant directory name =>
    obtain rfl : directory ++ [name] = place := hplace
    rw [h.of_vacant.2.2] at hentry
    exact absurd hentry.symm (Option.some_ne_none entry)

/-- A walk that ends at a free place ends with its name. -/
theorem Walk.eq_vacant {directory : Location} {name : String}
    (h : Walk disk last links location names spot) (hplace : spot.place = directory ++ [name])
    (hfree : disk.entry? (directory ++ [name]) = none) : spot = .vacant directory name := by
  cases spot with
  | occupied other found =>
    obtain rfl : other = directory ++ [name] := hplace
    rw [h.entry?_eq] at hfree
    exact absurd hfree (Option.some_ne_none found)
  | vacant other free =>
    obtain ⟨rfl, hname⟩ := List.append_inj' hplace rfl
    rw [List.singleton_inj.mp hname]

/-- Taking away a file, or a link whose walks end at one, keeps every walk that ends elsewhere and
not at a link. -/
theorem Walk.erase {directory place : Location} {name : String} {entry : Entry}
    (h : Walk disk true links location names spot)
    (hentry : disk.entry? (directory ++ [name]) = some entry) (hne : entry ≠ .directory)
    (hlink : (∀ target, entry ≠ .link target) → place = directory ++ [name])
    (hends : ∀ links rest end_, Walk disk true links directory (name :: rest) end_ →
      end_.place = place)
    (hplace : spot.place ≠ place) (hspot : ∀ target, spot ≠ .occupied spot.place (.link target)) :
    Walk (disk.erase (directory ++ [name])) true links location names spot := by
  have hlocation : directory ++ [name] ≠ [] := by simp
  have hother : ∀ other found, disk.entry? other = some found → other ≠ directory ++ [name] →
      entry? (disk.erase (directory ++ [name])) other = some found := by
    intro other found hfound hdifferent
    rw [entry?_erase disk hlocation, if_neg hdifferent, hfound]
  have hdirectories : ∀ other, disk.entry? other = some .directory →
      entry? (disk.erase (directory ++ [name])) other = some .directory := by
    intro other hfound
    refine hother other _ hfound fun heq => hne ?_
    rw [heq, hentry, Option.some.injEq] at hfound
    exact hfound
  induction h with
  | @arrive links location found hfound =>
    refine .arrive (hother _ _ hfound fun heq => ?_)
    obtain rfl : location = directory ++ [name] := heq
    rw [hentry, Option.some.injEq] at hfound
    subst hfound
    exact hplace (hlink fun target htarget => hspot target (by rw [htarget]; rfl)).symm
  | stay hdirectory _ ih => exact .stay (hdirectories _ hdirectory) (ih hplace hspot)
  | rise hdirectory _ ih => exact .rise (hdirectories _ hdirectory) (ih hplace hspot)
  | free hdirectory hname hfree =>
    refine .free (hdirectories _ hdirectory) hname ?_
    rw [entry?_erase disk hlocation]
    split <;> simp [hfree]
  | halt _ _ _ hlast => exact Bool.noConfusion hlast
  | @turn links location other target rest spot hdirectory hname hturn hfollowed hrest ih =>
    have hdifferent : location ++ [other] ≠ directory ++ [name] := by
      intro heq
      obtain ⟨rfl, hsame⟩ := List.append_inj' heq rfl
      obtain rfl := List.singleton_inj.mp hsame
      exact hplace (hends _ _ _ (.turn hdirectory hname hturn hfollowed hrest))
    exact .turn (hdirectories _ hdirectory) hname (hother _ _ hturn hdifferent) hfollowed
      (ih hplace hspot)
  | @descend links location other found rest spot hdirectory hname hfound hplain hrest ih =>
    have hdifferent : location ++ [other] ≠ directory ++ [name] := by
      intro heq
      obtain ⟨rfl, hsame⟩ := List.append_inj' heq rfl
      obtain rfl := List.singleton_inj.mp hsame
      exact hplace (hends _ _ _ (.descend hdirectory hname hfound hplain hrest))
    exact .descend (hdirectories _ hdirectory) hname (hother _ _ hfound hdifferent) hplain
      (ih hplace hspot)

end Disk

end ToStringGen
