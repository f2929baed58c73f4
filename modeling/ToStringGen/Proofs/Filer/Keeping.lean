import Mathlib.Data.List.Induction
import ToStringGen.Proofs.Disk.Dots
import ToStringGen.Proofs.Java.Placement

/-!
# Files kept below a directory

Files that are kept by name lie below a directory at the names that spell their
places. Everything else below it is directories, and the rest of the disk is as it
was at first, so that the ways to the directory and to the files can be foretold.
-/

namespace ToStringGen

open Java Java.QualifiedName
open Text (Bytes)

namespace Disk

/-- A path leads to a directory. An empty path leads to the directory at which paths start. -/
def LeadsTo (disk : Disk) (root : Path) (base : Location) : Prop :=
  disk.follow true linkLimit (start root.text disk.workingDirectory) (steps root.text) =
    .ok (.occupied base .directory)

/-- A path leads to a directory with nothing in it. -/
structure LeadsToEmpty (disk : Disk) (root : Path) (base : Location) : Prop where
  leadsTo : disk.LeadsTo root base
  empty : ∀ names, names ≠ [] → disk.entry? (base ++ names) = none

/-- A disk is as it was at first but for what is below a directory. There it keeps files at the
places that their names spell, and otherwise directories. -/
structure Keeping (first : Disk) (base : Location) (files : Std.ExtTreeMap String Bytes)
    (disk : Disk) : Prop where
  workingDirectory : disk.workingDirectory = first.workingDirectory
  outside : ∀ location, (∀ names, names ≠ [] → location ≠ base ++ names) →
    disk.entry? location = first.entry? location
  holds : ∀ typeName contents, files[typeName]? = some contents →
    disk.entry? (base ++ sourceNames typeName) = some (.file contents)
  below : ∀ names entry, names ≠ [] → disk.entry? (base ++ names) = some entry →
    entry = .directory ∧ (∀ name ∈ names, isIdentifier name = true) ∨
      ∃ typeName contents, files[typeName]? = some contents ∧ names = sourceNames typeName ∧
        entry = .file contents
  parents : ∀ names name entry, disk.entry? (base ++ (names ++ [name])) = some entry →
    disk.entry? (base ++ names) = some .directory

variable {first disk : Disk} {root : Path} {base : Location}
  {files : Std.ExtTreeMap String Bytes} {names : List String} {name : String}

/-- The names on the way to a source are not all identifiers. -/
theorem not_isIdentifier_sourceNames (typeName : String) :
    ¬∀ name ∈ sourceNames typeName, isIdentifier name = true := by
  intro h
  have hlast := h (simple typeName ++ sourceEnding) (by simp [sourceNames])
  rw [isIdentifier_append_sourceEnding] at hlast
  exact Bool.noConfusion hlast

/-- A source does not lie at the root of the disk. -/
theorem append_sourceNames_ne_nil (base : Location) (typeName : String) :
    base ++ sourceNames typeName ≠ [] :=
  List.append_ne_nil_of_right_ne_nil base (sourceNames_ne_nil typeName)

/-- What is kept after a file was put under a name. -/
theorem getElem?_insert_eq (files : Std.ExtTreeMap String Bytes) (typeName other : String)
    (contents : Bytes) :
    (files.insert typeName contents)[other]? =
      if other = typeName then some contents else files[other]? := by
  rw [Std.ExtTreeMap.getElem?_insert]
  by_cases heq : other = typeName
  · simp [heq]
  · rw [if_neg heq, if_neg]
    exact fun hcompare => heq (Std.LawfulEqCmp.eq_of_compare hcompare).symm

/-- What is kept after the file under a name was taken away. -/
theorem getElem?_erase_eq (files : Std.ExtTreeMap String Bytes) (typeName other : String) :
    (files.erase typeName)[other]? = if other = typeName then none else files[other]? := by
  rw [Std.ExtTreeMap.getElem?_erase]
  by_cases heq : other = typeName
  · simp [heq]
  · rw [if_neg heq, if_neg]
    exact fun hcompare => heq (Std.LawfulEqCmp.eq_of_compare hcompare).symm

/-- All names lead to directories, one in the other. -/
def HasDirectories (disk : Disk) (location : Location) (names : List String) : Prop :=
  ∀ front, front <+: names → disk.entry? (location ++ front) = some .directory

namespace HasDirectories

/-- One more directory may follow. -/
theorem concat (h : disk.HasDirectories base names)
    (hlast : disk.entry? (base ++ (names ++ [name])) = some .directory) :
    disk.HasDirectories base (names ++ [name]) := by
  intro front hfront
  rcases List.prefix_concat_iff.mp hfront with rfl | hfront
  · exact hlast
  · exact h front hfront

/-- Directories stay when another one is put on the disk. -/
theorem put (h : disk.HasDirectories base names) {place : Location} (hplace : place ≠ []) :
    (disk.put place .directory).HasDirectories base names := by
  intro front hfront
  rw [entry?_put disk hplace, h front hfront, ite_self]

end HasDirectories

namespace Keeping

/-- An empty directory keeps no files. -/
theorem of_empty (h : disk.LeadsToEmpty root base) : Keeping disk base ∅ disk where
  workingDirectory := rfl
  outside _ _ := rfl
  holds typeName contents hfile := by simp at hfile
  below names entry hne hentry := by
    rw [h.empty names hne] at hentry
    exact absurd hentry.symm (Option.some_ne_none entry)
  parents names name entry hentry := by
    rw [h.empty _ (by simp)] at hentry
    exact absurd hentry.symm (Option.some_ne_none entry)

/-- The path still leads to the directory. -/
theorem leadsTo (h : Keeping first base files disk) (hfirst : first.LeadsToEmpty root base) :
    disk.LeadsTo root base := by
  have hentries : ∀ location entry, first.entry? location = some entry →
      disk.entry? location = some entry := by
    intro location entry hentry
    rw [h.outside location, hentry]
    rintro names hne rfl
    rw [hfirst.empty names hne] at hentry
    exact Option.some_ne_none entry hentry.symm
  have hwalk := (follow_eq_ok_iff.mp hfirst.leadsTo).of_entries hentries
  rw [LeadsTo, h.workingDirectory]
  exact hwalk.follow_eq

/-- The directory is there. -/
theorem base_eq (h : Keeping first base files disk) (hfirst : first.LeadsToEmpty root base) :
    disk.entry? base = some .directory :=
  (follow_eq_ok_iff.mp (h.leadsTo hfirst)).entry?_eq

/-- At identifiers there are directories only. -/
theorem entry?_identifiers (h : Keeping first base files disk)
    (hfirst : first.LeadsToEmpty root base)
    (hnames : ∀ name ∈ names, isIdentifier name = true) :
    disk.entry? (base ++ names) = none ∨ disk.entry? (base ++ names) = some .directory := by
  by_cases hne : names = []
  · rw [hne, List.append_nil]
    exact Or.inr (h.base_eq hfirst)
  · cases hentry : disk.entry? (base ++ names) with
    | none => exact Or.inl rfl
    | some entry =>
      rcases h.below names entry hne hentry with ⟨rfl, _⟩ | ⟨other, _, _, rfl, _⟩
      · exact Or.inr rfl
      · exact absurd hnames (not_isIdentifier_sourceNames other)

/-- At the place of a source there is its file or nothing. -/
theorem entry?_sourceNames (h : Keeping first base files disk) (typeName : String) :
    disk.entry? (base ++ sourceNames typeName) = files[typeName]?.map .file := by
  cases hfile : files[typeName]? with
  | some contents => exact h.holds typeName contents hfile
  | none =>
    cases hentry : disk.entry? (base ++ sourceNames typeName) with
    | none => rfl
    | some entry =>
      rcases h.below _ entry (sourceNames_ne_nil typeName) hentry with
        ⟨_, hnames⟩ | ⟨other, contents, hother, hnames, _⟩
      · exact absurd hnames (not_isIdentifier_sourceNames typeName)
      · rw [sourceNames_injective hnames, hother] at hfile
        exact absurd hfile (Option.some_ne_none contents)

/-- What lies in a directory below has the directories above it. -/
theorem hasDirectories (h : Keeping first base files disk) {entry : Entry}
    (hentry : disk.entry? (base ++ (names ++ [name])) = some entry) :
    disk.HasDirectories base names := by
  induction names using List.reverseRecOn generalizing name entry with
  | nil =>
    intro front hfront
    rw [List.prefix_nil.mp hfront]
    exact h.parents [] name entry hentry
  | append_singleton init last ih =>
    have hparent := h.parents _ name entry hentry
    exact (ih hparent).concat hparent

/-- A directory may be made at identifiers in another one. -/
theorem makeDirectory (h : Keeping first base files disk)
    (hparent : disk.entry? (base ++ names) = some .directory)
    (hnames : ∀ part ∈ names ++ [name], isIdentifier part = true) :
    Keeping first base files (disk.put (base ++ (names ++ [name])) .directory) := by
  have hplace : base ++ (names ++ [name]) ≠ [] := by simp
  refine ⟨h.workingDirectory, fun location hlocation => ?_, fun typeName contents hfile => ?_,
    fun others entry hothers hentry => ?_, fun others last entry hentry => ?_⟩
  · rw [entry?_put disk hplace, if_neg (hlocation _ (by simp)), h.outside location hlocation]
  · rw [entry?_put disk hplace, if_neg, h.holds typeName contents hfile]
    intro heq
    rw [← List.append_cancel_left heq] at hnames
    exact not_isIdentifier_sourceNames typeName hnames
  · rw [entry?_put disk hplace] at hentry
    split at hentry
    · next heq =>
      rw [List.append_cancel_left heq]
      exact Or.inl ⟨(Option.some.inj hentry).symm, hnames⟩
    · exact h.below others entry hothers hentry
  · rw [entry?_put disk hplace] at hentry ⊢
    split
    · rfl
    · split at hentry
      · next heq =>
        have hsame := (List.append_inj' (List.append_cancel_left heq) rfl).1
        rw [hsame, hparent]
      · exact h.parents others last entry hentry

/-- The file of a name may become another one or none. For a file its directory has to be there. -/
theorem change (h : Keeping first base files disk) {typeName : String} {found : Option Bytes}
    {changed : Std.ExtTreeMap String Bytes} {after : Disk}
    (hparent : found ≠ none → disk.entry? (base ++ packageSegments typeName) = some .directory)
    (hfiles : ∀ other, changed[other]? = if other = typeName then found else files[other]?)
    (hworkingDirectory : after.workingDirectory = disk.workingDirectory)
    (hdisk : ∀ location, after.entry? location =
      if location = base ++ sourceNames typeName then found.map .file
      else disk.entry? location) :
    Keeping first base changed after := by
  refine ⟨hworkingDirectory.trans h.workingDirectory, fun location hlocation => ?_,
    fun other contents hfile => ?_, fun others entry hothers hentry => ?_,
    fun others last entry hentry => ?_⟩
  · rw [hdisk, if_neg (hlocation _ (sourceNames_ne_nil typeName)), h.outside location hlocation]
  · rw [hfiles] at hfile
    rw [hdisk]
    by_cases heq : other = typeName
    · rw [if_pos heq] at hfile
      rw [heq, if_pos rfl, hfile, Option.map_some]
    · rw [if_neg heq] at hfile
      rw [if_neg fun hplace => heq (sourceNames_injective (List.append_cancel_left hplace)),
        h.holds other contents hfile]
  · rw [hdisk] at hentry
    split at hentry
    · next heq =>
      obtain ⟨contents, hfound, rfl⟩ := Option.map_eq_some_iff.mp hentry
      exact Or.inr ⟨typeName, contents, by rw [hfiles, if_pos rfl, hfound],
        List.append_cancel_left heq, rfl⟩
    · next hne =>
      rcases h.below others entry hothers hentry with hbelow | ⟨other, contents, hfile, rfl, rfl⟩
      · exact Or.inl hbelow
      · refine Or.inr ⟨other, contents, ?_, rfl, rfl⟩
        rw [hfiles, if_neg (fun heq => hne (by rw [heq])), hfile]
  · -- The directory of an entry is there, and it is not where the file is.
    have hdirectory : disk.entry? (base ++ others) = some .directory := by
      rw [hdisk] at hentry
      split at hentry
      · next heq =>
        have hsame := (List.append_inj' (List.append_cancel_left heq) rfl).1
        obtain ⟨contents, hfound, _⟩ := Option.map_eq_some_iff.mp hentry
        rw [hsame]
        exact hparent (by rw [hfound]; exact Option.some_ne_none contents)
      · exact h.parents others last entry hentry
    rw [hdisk, if_neg, hdirectory]
    intro heq
    rw [heq, h.entry?_sourceNames] at hdirectory
    cases hfile : files[typeName]? <;> simp [hfile] at hdirectory

/-- A file may be put at the place that its name spells, in a directory. -/
theorem putFile (h : Keeping first base files disk) {typeName : String}
    (hparent : disk.entry? (base ++ packageSegments typeName) = some .directory)
    (contents : Bytes) :
    Keeping first base (files.insert typeName contents)
      (disk.put (base ++ sourceNames typeName) (.file contents)) :=
  h.change (fun _ => hparent) (fun other => getElem?_insert_eq files typeName other contents) rfl
    (entry?_put disk (append_sourceNames_ne_nil base typeName) (.file contents))

/-- A file that is kept may get other contents. -/
theorem putFile_insert {typeName : String} {contents : Bytes}
    (h : Keeping first base (files.insert typeName contents) disk) (more : Bytes) :
    Keeping first base (files.insert typeName more)
      (disk.put (base ++ sourceNames typeName) (.file more)) := by
  have hentry := h.holds typeName contents Std.ExtTreeMap.getElem?_insert_self
  have hfiles : ∀ other, (files.insert typeName more)[other]? =
      if other = typeName then some more else (files.insert typeName contents)[other]? := by
    intro other
    rw [getElem?_insert_eq, getElem?_insert_eq]
    split <;> rfl
  exact h.change (fun _ => h.parents (packageSegments typeName) _ _ hentry) hfiles rfl
    (entry?_put disk (append_sourceNames_ne_nil base typeName) (.file more))

/-- The file of a name may be taken away. -/
theorem erase (h : Keeping first base files disk) (typeName : String) :
    Keeping first base (files.erase typeName)
      (disk.erase (base ++ sourceNames typeName)) :=
  h.change (fun hne => absurd rfl hne) (fun other => getElem?_erase_eq files typeName other) rfl
    (entry?_erase disk (append_sourceNames_ne_nil base typeName))

/-- There is nothing to be taken away for a name without a file. -/
theorem erase_of_not_mem (h : Keeping first base files disk) {typeName : String}
    (hfile : files[typeName]? = none) : Keeping first base (files.erase typeName) disk := by
  refine h.change (fun hne => absurd rfl hne) (fun other => getElem?_erase_eq files typeName other)
    rfl fun location => ?_
  split
  · next heq => rw [heq, h.entry?_sourceNames, hfile]
  · rfl

end Keeping

end Disk

end ToStringGen
