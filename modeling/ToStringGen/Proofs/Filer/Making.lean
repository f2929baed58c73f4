import ToStringGen.Proofs.Filer.Below
import ToStringGen.Proofs.Filer.OnDisk

/-!
# Opening files that are kept

When no call goes wrong by itself, the directories above a source can be made and its
file can be opened, whatever is kept below the output directory already.
-/

namespace ToStringGen

open Java Java.QualifiedName
open Text (Bytes)

/-- The file of a type has a path that is short enough, with names that are short enough. -/
structure Fits (root : Path) (typeName : String) : Prop where
  admissible : (root.join (sourcePath typeName)).IsAdmissible
  size_le : ∀ name ∈ sourceNames typeName, name.utf8ByteSize ≤ Disk.nameLimit

instance (root : Path) (typeName : String) : Decidable (Fits root typeName) :=
  decidable_of_iff ((root.join (sourcePath typeName)).IsAdmissible ∧
      ∀ name ∈ sourceNames typeName, name.utf8ByteSize ≤ Disk.nameLimit)
    ⟨fun ⟨hadmissible, hsize⟩ => ⟨hadmissible, hsize⟩, fun h => ⟨h.admissible, h.size_le⟩⟩

/-- No call can succeed on the path of a source that does not fit: such a path leads nowhere. -/
theorem fits_of_locate_eq_ok {disk : Disk} {last : Bool} {root : Path} {typeName : String}
    {spot : Spot} (hname : isQualifiedIdentifier typeName = true)
    (h : disk.locate last (root.join (sourcePath typeName)) = .ok spot) :
    Fits root typeName := by
  obtain ⟨hadmissible, hwalk⟩ := Disk.locate_eq_ok_iff.mp h
  refine ⟨hadmissible, fun name hmem => hwalk.size_le name ?_⟩
  rw [sourcePath_eq hname, Disk.steps_join root
    (fun part hpart => isName_of_mem_sourceNames hname hpart) (sourceNames_ne_nil typeName)]
  exact List.mem_append_right _ hmem

/-- A directory can be made, or it is there already. -/
def Disk.Provides (disk : Disk) (path : Path) : Prop :=
  (disk.makeDirectory path).1 = .ok () ∨
    (disk.makeDirectory path).1 = .error (.system .alreadyExists) ∧
      (disk.makeDirectory path).2.isDirectory path = true

namespace Disk.Keeping

variable {first disk : Disk} {root path : Path} {base : Location}
  {files : Std.ExtTreeMap String Bytes} {names init : List String} {typeName name : String}

/-- Identifiers that are short enough are looked up. -/
theorem isEntryName_of_isIdentifier (h : isIdentifier name = true)
    (hsize : name.utf8ByteSize ≤ nameLimit) : IsEntryName name where
  ne_here := (isName_of_isIdentifier h).ne_here
  ne_up := (isName_of_isIdentifier h).ne_up
  size_le := hsize

/-- Names that lead through directories lead to a directory. -/
theorem isDirectory_of_hasDirectories (h : Keeping first base files disk)
    (hfirst : first.LeadsToEmpty root base) (hpath : IsBelow root path names) (hne : names ≠ [])
    (hnames : ∀ name ∈ names, IsEntryName name) (hthere : disk.HasDirectories base names) :
    disk.isDirectory path = true := by
  obtain ⟨links, hlocate⟩ := hpath.exists_locate_eq hne (h.leadsTo hfirst)
  have hlast := hthere names (List.prefix_refl names)
  have hfollow := @follow_of_hasDirectories disk true links base names [] hthere hnames
  rw [List.append_nil, follow, hlast] at hfollow
  rw [isDirectory, hlocate true, hfollow]

/-- In a directory another one is provided, and then it is there. -/
theorem makeDirectory_of_hasDirectories (h : Keeping first base files disk)
    (hfirst : first.LeadsToEmpty root base) (hpath : IsBelow root path (init ++ [name]))
    (hidentifiers : ∀ part ∈ init ++ [name], isIdentifier part = true)
    (hnames : ∀ part ∈ init ++ [name], IsEntryName part)
    (hthere : disk.HasDirectories base init) :
    disk.Provides path ∧ Keeping first base files (disk.makeDirectory path).2 ∧
      (disk.makeDirectory path).2.HasDirectories base (init ++ [name]) := by
  obtain ⟨links, hlocate⟩ := hpath.exists_locate_eq (by simp) (h.leadsTo hfirst)
  have hinit : ∀ part ∈ init, IsEntryName part :=
    fun part hmem => hnames part (List.mem_append_left _ hmem)
  have hname := hnames name (by simp)
  have hparent := hthere init (List.prefix_refl init)
  have hfollow := @follow_of_hasDirectories disk false links base init [name] hthere hinit
  rcases h.entry?_identifiers hfirst hidentifiers with hfree | hentry
  · rw [← List.append_assoc] at hfree
    rw [follow_of_free _ hparent hname hfree, if_pos rfl] at hfollow
    have hmake : disk.makeDirectory path =
        (.ok (), disk.put (base ++ (init ++ [name])) .directory) := by
      rw [Disk.makeDirectory, hlocate false, hfollow, ← List.append_assoc]
    have hplace : base ++ (init ++ [name]) ≠ [] := by simp
    rw [Provides, hmake]
    exact ⟨Or.inl rfl, h.makeDirectory hparent hidentifiers,
      (hthere.put hplace).concat (by rw [entry?_put disk hplace, if_pos rfl])⟩
  · have hentry' := hentry
    rw [← List.append_assoc] at hentry'
    rw [follow_of_entry _ hparent hname hentry' (by simp), follow, hentry'] at hfollow
    have hmake : disk.makeDirectory path = (.error (.system .alreadyExists), disk) := by
      rw [Disk.makeDirectory, hlocate false, hfollow]
    have hall := hthere.concat hentry
    rw [Provides, hmake]
    exact ⟨Or.inr ⟨rfl, h.isDirectory_of_hasDirectories hfirst hpath (by simp) hnames hall⟩, h,
      hall⟩

/-- No directory can be made where the one above it is missing. -/
theorem makeDirectory_of_not_hasDirectories (h : Keeping first base files disk)
    (hfirst : first.LeadsToEmpty root base) (hpath : IsBelow root path (init ++ [name]))
    (hidentifiers : ∀ part ∈ init ++ [name], isIdentifier part = true)
    (hnames : ∀ part ∈ init ++ [name], IsEntryName part)
    (hnot : ¬disk.HasDirectories base init) :
    disk.makeDirectory path = (.error (.system .notFound), disk) := by
  obtain ⟨links, hlocate⟩ := hpath.exists_locate_eq (by simp) (h.leadsTo hfirst)
  have hfollow := @follow_of_not_hasDirectories disk false links base init [name] hnot
    (h.base_eq hfirst)
    (fun front hfront => h.entry?_identifiers hfirst fun part hmem =>
      hidentifiers part (List.mem_append_left _ (hfront.subset hmem)))
    (fun part hmem => hnames part (List.mem_append_left _ hmem)) (by simp)
  rw [Disk.makeDirectory, hlocate false, hfollow]

/-- The names on the way to a source that fits are looked up. -/
theorem isEntryName_of_mem_sourceNames (hname : isQualifiedIdentifier typeName = true)
    (hfits : Fits root typeName) {part : String} (hmem : part ∈ sourceNames typeName) :
    IsEntryName part := by
  have hpart := isName_of_mem_sourceNames hname hmem
  exact ⟨hpart.ne_here, hpart.ne_up, hfits.size_le part hmem⟩

/-- The path of a source leads to its file, or to its free name, where the directories above it are
there. -/
theorem locate_of_hasDirectories (h : Keeping first base files disk)
    (hfirst : first.LeadsToEmpty root base) (hname : isQualifiedIdentifier typeName = true)
    (hfits : Fits root typeName) (hthere : disk.HasDirectories base (packageSegments typeName))
    (last : Bool) :
    disk.locate last (root.join (sourcePath typeName)) =
      match files[typeName]? with
      | some contents => .ok (.occupied (base ++ sourceNames typeName) (.file contents))
      | none =>
          .ok (.vacant (base ++ packageSegments typeName) (simple typeName ++ sourceEnding)) := by
  obtain ⟨links, hlocate⟩ := (isBelow_sourcePath hname hfits.admissible).exists_locate_eq
    (sourceNames_ne_nil typeName) (h.leadsTo hfirst)
  have hnames : ∀ part ∈ sourceNames typeName, IsEntryName part :=
    fun part hmem => isEntryName_of_mem_sourceNames hname hfits hmem
  have hfile := h.entry?_sourceNames typeName
  have hparent := hthere _ (List.prefix_refl (packageSegments typeName))
  rw [sourceNames] at hlocate hnames hfile ⊢
  have hfollow := @follow_of_hasDirectories disk last links base (packageSegments typeName)
    [simple typeName ++ sourceEnding] hthere
    (fun part hmem => hnames part (List.mem_append_left _ hmem))
  have hlast := hnames (simple typeName ++ sourceEnding) (by simp)
  rw [← List.append_assoc] at hfile ⊢
  rw [hlocate last, hfollow]
  cases hcontents : files[typeName]? with
  | none =>
    rw [hcontents, Option.map_none] at hfile
    rw [follow_of_free _ hparent hlast hfile, if_pos rfl]
  | some contents =>
    rw [hcontents, Option.map_some] at hfile
    rw [follow_of_entry _ hparent hlast hfile (by simp), follow, hfile]

/-- The path of a source that is kept leads to its file. -/
theorem locate_of_mem (h : Keeping first base files disk)
    (hfirst : first.LeadsToEmpty root base) (hname : isQualifiedIdentifier typeName = true)
    (hfits : Fits root typeName) {contents : Bytes} (hfile : files[typeName]? = some contents)
    (last : Bool) :
    disk.locate last (root.join (sourcePath typeName)) =
      .ok (.occupied (base ++ sourceNames typeName) (.file contents)) := by
  have hthere := h.hasDirectories (h.holds typeName contents hfile)
  rw [h.locate_of_hasDirectories hfirst hname hfits hthere, hfile]

/-- The file of a source can be opened where the directories above it are there. -/
theorem create_of_hasDirectories (h : Keeping first base files disk)
    (hfirst : first.LeadsToEmpty root base) (hname : isQualifiedIdentifier typeName = true)
    (hfits : Fits root typeName) (hthere : disk.HasDirectories base (packageSegments typeName)) :
    disk.create (root.join (sourcePath typeName)) =
      (.ok (base ++ sourceNames typeName),
        disk.put (base ++ sourceNames typeName) (.file [])) := by
  rw [Disk.create, h.locate_of_hasDirectories hfirst hname hfits hthere]
  cases files[typeName]? with
  | none => rw [sourceNames, ← List.append_assoc]
  | some contents => rfl

/-- The file of a source that is kept can be removed. -/
theorem remove_of_mem (h : Keeping first base files disk)
    (hfirst : first.LeadsToEmpty root base) (hname : isQualifiedIdentifier typeName = true)
    (hfits : Fits root typeName) {contents : Bytes} (hfile : files[typeName]? = some contents) :
    disk.remove (root.join (sourcePath typeName)) =
      (.ok (), disk.erase (base ++ sourceNames typeName)) := by
  rw [Disk.remove, h.locate_of_mem hfirst hname hfits hfile]
  rfl

/-- There is no file to be removed for a source that is not kept. -/
theorem remove_of_not_mem (h : Keeping first base files disk)
    (hfirst : first.LeadsToEmpty root base) (hname : isQualifiedIdentifier typeName = true)
    (hfits : Fits root typeName) (hfile : files[typeName]? = none) :
    disk.remove (root.join (sourcePath typeName)) = (.error (.system .notFound), disk) := by
  by_cases hthere : disk.HasDirectories base (packageSegments typeName)
  · rw [Disk.remove, h.locate_of_hasDirectories hfirst hname hfits hthere, hfile]
  · obtain ⟨links, hlocate⟩ := (isBelow_sourcePath hname hfits.admissible).exists_locate_eq
      (sourceNames_ne_nil typeName) (h.leadsTo hfirst)
    have hmissing := @follow_of_not_hasDirectories disk false links base
      (packageSegments typeName) [simple typeName ++ sourceEnding] hthere (h.base_eq hfirst)
      (fun front hfront => h.entry?_identifiers hfirst fun part hmem =>
        isIdentifier_of_mem_packageSegments hname (hfront.subset hmem))
      (fun part hmem => isEntryName_of_mem_sourceNames hname hfits (List.mem_append_left _ hmem))
      (by simp)
    rw [Disk.remove, hlocate false, sourceNames, hmissing]

end Disk.Keeping

end ToStringGen
