import ToStringGen.Proofs.Filer.Keeping

/-!
# Ways below a directory

The path of a source, and the paths of the directories above it, go through the
output directory and then follow plain names. Below it they lead as far as there
are directories.
-/

namespace ToStringGen

open Java Java.QualifiedName

namespace Disk

variable {disk : Disk} {last : Bool} {links : Nat} {root path : Path} {base location : Location}
  {names front rest : List String} {typeName name : String}

/-- A path asks, up to dots, for what another path asks for and then for some names. -/
structure IsBelow (root path : Path) (names : List String) : Prop where
  admissible : path.IsAdmissible
  start_eq : ∀ current, start path.text current = start root.text current
  steps_eq : ∃ front, steps path.text = front ++ names ∧
    front.filter (· != ".") = (steps root.text).filter (· != ".")

/-- Names at the end of the components are asked for after the components before them. -/
theorem IsBelow.of_components (hpath : path.IsAdmissible)
    (hcomponents : path.components = root.components ++ names.map .name)
    (hnames : ∀ name ∈ names, Path.IsName name)
    (hsteps : ∃ front, steps path.text = front ++ names) : IsBelow root path names where
  admissible := hpath
  start_eq current := by
    rw [Disk.start_eq, Disk.start_eq, hcomponents]
    cases hroot : root.components with
    | nil => cases names <;> simp
    | cons first more => simp
  steps_eq := by
    obtain ⟨front, hfront⟩ := hsteps
    refine ⟨front, hfront, ?_⟩
    have hplain : names.filter (· != ".") = names :=
      List.filter_eq_self.mpr fun name hmem => bne_iff_ne.mpr (hnames name hmem).ne_here
    have hsame := filter_steps path
    rw [hfront, hcomponents, List.filter_append, hplain, List.filterMap_append,
      ← filter_steps root, List.filterMap_map] at hsame
    have hstep : names.filterMap (Path.Component.step? ∘ .name) = names :=
      List.filterMap_some
    rw [hstep] at hsame
    exact List.append_cancel_right hsame

/-- The path of a source goes through the directory that it is joined to. -/
theorem isBelow_sourcePath (hname : isQualifiedIdentifier typeName = true)
    (hpath : (root.join (sourcePath typeName)).IsAdmissible) :
    IsBelow root (root.join (sourcePath typeName)) (sourceNames typeName) := by
  have hnames : ∀ part ∈ sourceNames typeName, Path.IsName part :=
    fun part hmem => isName_of_mem_sourceNames hname hmem
  refine .of_components hpath (components_join_sourcePath root hname) hnames ?_
  rw [sourcePath_eq hname, steps_join root hnames (sourceNames_ne_nil typeName)]
  exact ⟨_, rfl⟩

/-- The paths of the directories above a source go through that directory as well. -/
theorem isBelow_ofComponents (hname : isQualifiedIdentifier typeName = true)
    (hpath : (root.join (sourcePath typeName)).IsAdmissible)
    (hsegments : names <+: packageSegments typeName) (hne : names ≠ []) :
    IsBelow root (Path.ofComponents (root.components ++ names.map .name)) names := by
  have hnames : ∀ name ∈ names, Path.IsName name := fun name hmem =>
    isName_of_isIdentifier (isIdentifier_of_mem_packageSegments hname (hsegments.subset hmem))
  have hfront : root.components ++ names.map .name <+:
      (root.join (sourcePath typeName)).components := by
    rw [components_join_sourcePath root hname, List.prefix_append_right_inj]
    exact (hsegments.trans (List.prefix_append ..)).map Path.Component.name
  have hcanonical : Path.IsCanonical (root.components ++ names.map .name) :=
    (Path.isCanonical_components _).of_front hfront
  have hadmissible := hpath.ofComponents hfront (by simp [hne])
  have hcomponents := Path.components_ofComponents hcanonical
  have hsteps := exists_steps_ofComponents hcanonical hnames hne
  exact .of_components hadmissible hcomponents hnames hsteps

/-- A path below leads where its names lead from the directory. -/
theorem IsBelow.exists_locate_eq (h : IsBelow root path names) (hne : names ≠ [])
    (hroot : disk.LeadsTo root base) :
    ∃ links, ∀ last, disk.locate last path = disk.follow last links base names := by
  obtain ⟨front, hsteps, hsame⟩ := h.steps_eq
  have hwalk := (follow_eq_ok_iff.mp hroot).of_filter_eq hsame
  obtain ⟨links, _, hfollow⟩ := hwalk.follow_append
  refine ⟨links, fun last => ?_⟩
  rw [locate_of_isAdmissible h.admissible, h.start_eq, hsteps, hfollow last names hne]

/-- The way goes through directories that are there. -/
theorem follow_of_hasDirectories (h : disk.HasDirectories location front)
    (hnames : ∀ name ∈ front, IsEntryName name) :
    disk.follow last links location (front ++ rest) =
      disk.follow last links (location ++ front) rest := by
  induction front generalizing location with
  | nil => rw [List.nil_append, List.append_nil]
  | cons name front ih =>
    obtain ⟨hname, hnames⟩ := List.forall_mem_cons.mp hnames
    have hlocation := h [] (List.nil_prefix)
    rw [List.append_nil] at hlocation
    have hentry := h [name] (List.prefix_append [name] front)
    have hmore : disk.HasDirectories (location ++ [name]) front := fun more hmore => by
      rw [List.append_assoc]
      exact h (name :: more) ((List.prefix_cons_inj name).mpr hmore)
    rw [List.cons_append, follow_of_entry _ hlocation hname hentry (by simp), ih hmore hnames,
      List.append_assoc, List.singleton_append]

/-- The way breaks off where a directory is missing. -/
theorem follow_of_not_hasDirectories (hnot : ¬disk.HasDirectories location front)
    (hlocation : disk.entry? location = some .directory)
    (hkind : ∀ names, names <+: front → disk.entry? (location ++ names) = none ∨
      disk.entry? (location ++ names) = some .directory)
    (hnames : ∀ name ∈ front, IsEntryName name) (hrest : rest ≠ []) :
    disk.follow last links location (front ++ rest) = .error (.system .notFound) := by
  induction front generalizing location with
  | nil =>
    refine absurd (fun names hprefix => ?_) hnot
    rw [List.prefix_nil.mp hprefix, List.append_nil, hlocation]
  | cons name front ih =>
    obtain ⟨hname, hnames⟩ := List.forall_mem_cons.mp hnames
    rcases hkind [name] (List.prefix_append [name] front) with hfree | hentry
    · rw [List.cons_append, follow_of_free _ hlocation hname hfree, if_neg (by simp [hrest])]
    · rw [List.cons_append, follow_of_entry _ hlocation hname hentry (by simp)]
      refine ih (fun hmore => hnot fun names hprefix => ?_) hentry (fun names hprefix => ?_) hnames
      · cases names with
        | nil => rw [List.append_nil, hlocation]
        | cons first names =>
          obtain ⟨rfl, hprefix⟩ := List.cons_prefix_cons.mp hprefix
          have hthere := hmore names ((List.prefix_cons_inj first).mp hprefix)
          rwa [List.append_assoc] at hthere
      · rw [List.append_assoc]
        exact hkind (name :: names) ((List.prefix_cons_inj name).mpr hprefix)

end Disk

end ToStringGen
