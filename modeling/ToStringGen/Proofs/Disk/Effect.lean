import ToStringGen.Proofs.Disk.Append

/-!
# What operations change

Making a directory changes one free place at most, and opening or writing a file
changes the place that the file is at. Everything else is as before, so that a path
which leads elsewhere leads to the same thing after the operation.
-/

namespace ToStringGen.Disk

open Text (Bytes)

variable {disk before after : Disk} {last : Bool} {path : Path} {location place : Location}

/-- Where nothing is taken away, a path that led to a place leads to what is there now. -/
theorem locate_occupied_of_keeps (hkeep : Keeps before after) {spot : Spot} {entry : Entry}
    (h : before.locate last path = .ok spot) (hentry : after.entry? spot.place = some entry) :
    after.locate last path = .ok (.occupied spot.place entry) := by
  obtain ⟨kept, hkept, hplace⟩ := locate_of_keeps hkeep h
  have hwalk := (locate_eq_ok_iff.mp hkept).2
  rw [hkept, hwalk.eq_occupied hplace hentry]

/-- Where nothing is taken away, a path that led to a free name leads to it as long as it is
free. -/
theorem locate_vacant_of_keeps (hkeep : Keeps before after) {directory : Location} {name : String}
    (h : before.locate last path = .ok (.vacant directory name))
    (hfree : after.entry? (directory ++ [name]) = none) :
    after.locate last path = .ok (.vacant directory name) := by
  obtain ⟨kept, hkept, hplace⟩ := locate_of_keeps hkeep h
  have hwalk := (locate_eq_ok_iff.mp hkept).2
  rw [hkept, hwalk.eq_vacant hplace hfree]

/-- Making a directory leaves a place as it is, or it was free and is a directory. -/
theorem entry?_makeDirectory (disk : Disk) (path : Path) (location : Location) :
    entry? (disk.makeDirectory path).2 location = disk.entry? location ∨
      disk.entry? location = none ∧
        entry? (disk.makeDirectory path).2 location = some .directory := by
  unfold makeDirectory
  split
  · exact Or.inl rfl
  · exact Or.inl rfl
  · next directory name hfree =>
    by_cases heq : location = directory ++ [name]
    · refine Or.inr ⟨?_, ?_⟩
      · rw [heq]
        exact entry?_of_locate_vacant hfree
      · rw [entry?_put disk (by simp), if_pos heq]
    · left
      rw [entry?_put disk (by simp), if_neg heq]

/-- Opening a file leaves a place as it is, unless it is the place of the file. -/
theorem entry?_create (disk : Disk) (path : Path) (location : Location) :
    entry? (disk.create path).2 location = disk.entry? location ∨
      (disk.create path).1 = .ok location ∧
        entry? (disk.create path).2 location = some (.file []) := by
  unfold create
  split
  · exact Or.inl rfl
  · next directory name hfree =>
    rw [entry?_put disk (by simp)]
    split
    · next heq => exact Or.inr ⟨by rw [heq], rfl⟩
    · exact Or.inl rfl
  · next found contents hfile =>
    rw [entry?_put disk (ne_nil_of_entry_eq_some (entry?_of_locate hfile) (by simp))]
    split
    · next heq => exact Or.inr ⟨by rw [heq], rfl⟩
    · exact Or.inl rfl
  · exact Or.inl rfl
  · exact Or.inl rfl
  · exact Or.inl rfl

/-- Writing leaves every place as it is but that of the file written to. -/
theorem entry?_append (disk : Disk) (place : Location) (bytes : Bytes) (location : Location) :
    entry? (disk.append place bytes).2 location = disk.entry? location ∨
      location = place ∧ ∃ contents, disk.entry? place = some (.file contents) := by
  by_cases hfile : ∃ contents, disk.entry? place = some (.file contents)
  · by_cases heq : location = place
    · exact Or.inr ⟨heq, hfile⟩
    · obtain ⟨contents, hcontents⟩ := hfile
      left
      rw [append_of_file hcontents,
        entry?_put disk (ne_nil_of_entry_eq_some hcontents (by simp)), if_neg heq]
  · left
    rw [(append_of_no_file (fun contents h => hfile ⟨contents, h⟩) bytes).2]

/-- A path to a file that was opened leads to the file, which is empty unless it is the device
without room. -/
theorem locate_of_create (h : (disk.create path).1 = .ok place) :
    ∃ entry, (disk.create path).2.locate true path = .ok (.occupied place entry) ∧
      (entry = .file [] ∨ entry = .full) := by
  have hkeep := keeps_create disk path
  have hplace : ∀ spot : Spot, disk.locate true path = .ok spot → spot.place = place →
      ∀ entry, entry? (disk.create path).2 place = some entry →
        (disk.create path).2.locate true path = .ok (.occupied place entry) := by
    rintro spot hlocate rfl entry hentry
    exact locate_occupied_of_keeps hkeep hlocate hentry
  cases hlocate : disk.locate true path with
  | error fault => simp [create, hlocate] at h
  | ok spot =>
    cases spot with
    | vacant directory name =>
      have hcreate : disk.create path = (.ok (directory ++ [name]),
          disk.put (directory ++ [name]) (.file [])) := by simp [create, hlocate]
      rw [hcreate, Except.ok.injEq] at h
      subst h
      refine ⟨.file [], hplace _ hlocate rfl _ ?_, Or.inl rfl⟩
      rw [hcreate, entry?_put disk (by simp), if_pos rfl]
    | occupied location entry =>
      cases entry with
      | file contents =>
        have hcreate : disk.create path = (.ok location, disk.put location (.file [])) := by
          simp [create, hlocate]
        rw [hcreate, Except.ok.injEq] at h
        subst h
        refine ⟨.file [], hplace _ hlocate rfl _ ?_, Or.inl rfl⟩
        rw [hcreate, entry?_put disk
          (ne_nil_of_entry_eq_some (entry?_of_locate hlocate) (by simp)), if_pos rfl]
      | full =>
        have hcreate : disk.create path = (.ok location, disk) := by simp [create, hlocate]
        rw [hcreate, Except.ok.injEq] at h
        subst h
        refine ⟨.full, hplace _ hlocate rfl _ ?_, Or.inr rfl⟩
        rw [hcreate]
        exact entry?_of_locate hlocate
      | directory => simp [create, hlocate] at h
      | link target => simp [create, hlocate] at h

/-- A path to a file leads to the file with more in it after bytes were written to it. -/
theorem locate_append {entry : Entry} (h : disk.locate true path = .ok (.occupied place entry))
    (bytes : Bytes) :
    ∃ written, (disk.append place bytes).2.locate true path = .ok (.occupied place written) ∧
      entry.SameKind written ∧
      ∀ contents, entry = .file contents → written = .file (contents ++ bytes) := by
  have hkeep := keeps_append disk place bytes
  obtain ⟨written, hwritten, hkind⟩ := hkeep.entries _ _ (entry?_of_locate h)
  refine ⟨written, locate_occupied_of_keeps hkeep h hwritten, hkind, ?_⟩
  rintro contents rfl
  rw [entry?_append_of_file (entry?_of_locate h), Option.some.injEq] at hwritten
  exact hwritten.symm

end ToStringGen.Disk
