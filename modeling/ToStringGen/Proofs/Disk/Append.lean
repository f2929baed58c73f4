import ToStringGen.Proofs.Disk.Locate

/-!
# Writing to files

Writes to a file add up: pieces written one after the other leave what writing them
at once leaves. Where there is no file, nothing can be written and nothing changes.
-/

namespace ToStringGen.Disk

open Text (Bytes)
variable {disk : Disk} {location : Location}

/-- Putting an entry twice is putting the second. -/
theorem put_put (disk : Disk) (location : Location) (first second : Entry) :
    (disk.put location first).put location second = disk.put location second := by
  unfold put
  congr 1
  refine Std.ExtTreeMap.ext_getElem? fun {other} => ?_
  simp only [Std.ExtTreeMap.getElem?_insert]
  split <;> rfl

/-- Putting what is there changes nothing. -/
theorem put_self {entry : Entry} (hne : location ≠ []) (h : disk.entry? location = some entry) :
    disk.put location entry = disk := by
  rw [ entry?, if_neg hne] at h
  unfold put
  have hentries : disk.entries.insert location entry = disk.entries := by
    refine Std.ExtTreeMap.ext_getElem? fun {other} => ?_
    rw [Std.ExtTreeMap.getElem?_insert]
    split
    · next heq => rw [← Std.LawfulEqCmp.eq_of_compare heq, h]
    · rfl
  rw [hentries]

/-- Writing to a file puts the bytes after its contents. -/
theorem append_of_file {contents : Bytes} (h : disk.entry? location = some (.file contents))
    (bytes : Bytes) :
    disk.append location bytes = (.ok (), disk.put location (.file (contents ++ bytes))) := by
  unfold append
  rw [h]

/-- Writing elsewhere fails and changes nothing. -/
theorem append_of_no_file (h : ∀ contents, disk.entry? location ≠ some (.file contents))
    (bytes : Bytes) :
    (∃ fault, (disk.append location bytes).1 = .error fault) ∧
      (disk.append location bytes).2 = disk := by
  unfold append
  split
  · next hfile => exact absurd hfile (h _)
  · exact ⟨⟨_, rfl⟩, rfl⟩
  · exact ⟨⟨_, rfl⟩, rfl⟩

/-- What lies where something was written. -/
theorem entry?_append_of_file {contents : Bytes}
    (h : disk.entry? location = some (.file contents)) (bytes : Bytes) :
    entry? (disk.append location bytes).2 location = some (.file (contents ++ bytes)) := by
  rw [append_of_file h, entry?_put disk (ne_nil_of_entry_eq_some h (by simp)), if_pos rfl]

/-- Writing nothing changes nothing. -/
theorem append_nil (disk : Disk) (location : Location) : (disk.append location []).2 = disk := by
  by_cases hfile : ∃ contents, disk.entry? location = some (.file contents)
  · obtain ⟨contents, hfile⟩ := hfile
    rw [append_of_file hfile, List.append_nil]
    exact put_self (ne_nil_of_entry_eq_some hfile (by simp)) hfile
  · exact (append_of_no_file (fun contents h => hfile ⟨contents, h⟩) []).2

/-- Writing twice is writing both pieces at once. -/
theorem append_append (disk : Disk) (location : Location) (first second : Bytes) :
    ((disk.append location first).2.append location second).2 =
      (disk.append location (first ++ second)).2 := by
  by_cases hfile : ∃ contents, disk.entry? location = some (.file contents)
  · obtain ⟨contents, hfile⟩ := hfile
    rw [append_of_file (entry?_append_of_file hfile first), append_of_file hfile,
      append_of_file hfile, put_put, List.append_assoc]
  · have hnone := fun contents h => hfile ⟨contents, h⟩
    rw [(append_of_no_file hnone first).2, (append_of_no_file hnone second).2,
      (append_of_no_file hnone (first ++ second)).2]

end ToStringGen.Disk
