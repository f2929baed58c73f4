import Mathlib.Data.List.Induction
import ToStringGen.Proofs.Filer.Making

/-!
# Opening files that are kept, step by step

The directories above a source are made from the outermost missing one inwards, and
then its file is opened. In a directory that was empty at first every one of these
calls does what it is asked to do, or finds that it has been done.
-/

namespace ToStringGen

open Java Java.QualifiedName
open Text (Bytes)
open Disk OnDisk

variable {σ : Type} [Volume Location (StateM σ)] [MonadStateOf (Directory Location) (StateM σ)]
  [OnDisk σ] {first : Disk} {root path : Path} {base : Location}
  {files : Std.ExtTreeMap String Bytes} {typeName : String} {s : σ}
  {component : Path.Component} {above : List Path.Component}

/-- Where a directory is provided, there is nothing to be made above it. -/
theorem run_makeTree_of_provides (hcall : Reliable σ .makeDirectory)
    (hpath : Path.ofComponents (component :: above).reverse = path)
    (h : (disk s).Provides path) :
    ∃ t, (Volume.makeTree (component :: above) : StateM σ (Except Fault Unit)).run s =
        (.ok (), t) ∧
      directory t = directory s ∧ disk t = ((disk s).makeDirectory path).2 := by
  obtain ⟨t, hrun, hdirectory, hdisk⟩ := run_makeDirectory hcall path s
  refine ⟨t, ?_, hdirectory, hdisk⟩
  rw [Volume.makeTree, hpath]
  rcases h with hmade | ⟨hexists, hthere⟩
  · rw [hmade] at hrun
    simp only [run_bind, hrun, run_pure]
  · rw [hexists] at hrun
    rw [← hdisk] at hthere
    simp only [run_bind, hrun, run_pure, run_isDirectory, hthere, reduceCtorEq, if_false, if_true,
      Fault.system.injEq]

/-- Where the directories above are missing, they are made before a directory is provided. -/
theorem run_makeTree_of_notFound (hcall : Reliable σ .makeDirectory)
    (hpath : Path.ofComponents (component :: above).reverse = path)
    (h : (disk s).makeDirectory path = (.error (.system .notFound), disk s)) :
    ∃ t, directory t = directory s ∧ disk t = disk s ∧
      ∀ u, (Volume.makeTree above : StateM σ (Except Fault Unit)).run t = (.ok (), u) →
        (disk u).Provides path →
        ∃ v, (Volume.makeTree (component :: above) : StateM σ (Except Fault Unit)).run s =
            (.ok (), v) ∧
          directory v = directory u ∧ disk v = ((disk u).makeDirectory path).2 := by
  obtain ⟨t, hfirst, htdirectory, htdisk⟩ := run_makeDirectory hcall path s
  rw [h] at hfirst htdisk
  refine ⟨t, htdirectory, htdisk, fun u habove hprovides => ?_⟩
  obtain ⟨v, hagain, hvdirectory, hvdisk⟩ := run_makeDirectory hcall path u
  refine ⟨v, ?_, hvdirectory, hvdisk⟩
  rw [Volume.makeTree, hpath]
  rcases hprovides with hmade | ⟨hexists, hthere⟩
  · rw [hmade] at hagain
    simp only [run_bind, hfirst, if_true, habove, hagain, run_pure]
  · rw [hexists] at hagain
    rw [← hvdisk] at hthere
    simp only [run_bind, hfirst, if_true, habove, hagain, run_pure, run_isDirectory, hthere]

/-- The directories that a file is to lie in can be made where the innermost one is provided. -/
theorem run_makeParents_of_provides (hcall : Reliable σ .makeDirectory) {parent : Path}
    (hparent : path.parent? = some parent) (hne : parent.components ≠ [])
    (h : (disk s).Provides (Path.ofComponents parent.components)) :
    ∃ t, (Volume.makeParents path : StateM σ (Except Fault Unit)).run s = (.ok (), t) ∧
      directory t = directory s ∧
      disk t = ((disk s).makeDirectory (Path.ofComponents parent.components)).2 := by
  rw [Volume.makeParents, hparent]
  cases hreverse : parent.components.reverse with
  | nil => exact absurd (List.reverse_eq_nil_iff.mp hreverse) hne
  | cons component above =>
    have hcomponents : (component :: above).reverse = parent.components := by
      rw [← hreverse, List.reverse_reverse]
    simp only [hreverse]
    exact run_makeTree_of_provides hcall (congrArg Path.ofComponents hcomponents) h

/-- The directories of the output directory itself are there. -/
theorem run_makeTree_root (hcall : Reliable σ .makeDirectory) (hfirst : first.LeadsToEmpty root base)
    (hname : isQualifiedIdentifier typeName = true) (hfits : Fits root typeName)
    (h : Keeping first base files (disk s)) :
    ∃ t, (Volume.makeTree root.components.reverse : StateM σ (Except Fault Unit)).run s =
        (.ok (), t) ∧
      directory t = directory s ∧ disk t = disk s := by
  cases hreverse : root.components.reverse with
  | nil =>
    rw [Volume.makeTree, run_pure]
    exact ⟨s, rfl, rfl, rfl⟩
  | cons component above =>
    have hcomponents : (component :: above).reverse = root.components := by
      rw [← hreverse, List.reverse_reverse]
    have hne : root.components ≠ [] := by
      rw [← hcomponents]
      simp
    -- The path put together from the components leads to the directory as well.
    have hfront : root.components <+: (root.join (sourcePath typeName)).components := by
      rw [components_join_sourcePath root hname]
      exact List.prefix_append ..
    have hadmissible := hfits.admissible.ofComponents hfront hne
    have hsame : (Path.ofComponents root.components).components = root.components :=
      Path.components_ofComponents (Path.isCanonical_components root)
    have hfilter := filter_steps (Path.ofComponents root.components)
    rw [hsame, ← filter_steps root] at hfilter
    have hwalk := (follow_eq_ok_iff.mp (h.leadsTo hfirst)).of_filter_eq hfilter
    have hstart : start (Path.ofComponents root.components).text (disk s).workingDirectory =
        start root.text (disk s).workingDirectory := by
      rw [Disk.start_eq, Disk.start_eq, hsame]
    rw [← hstart] at hwalk
    have hlocate := locate_eq_ok_iff.mpr ⟨hadmissible, hwalk⟩
    obtain ⟨place, entry, hunfollowed⟩ := hwalk.unfollowed
    have hoccupied := locate_eq_ok_iff.mpr ⟨hadmissible, hunfollowed⟩
    have hmake : (disk s).makeDirectory (Path.ofComponents root.components) =
        (.error (.system .alreadyExists), disk s) := by
      rw [Disk.makeDirectory, hoccupied]
    have hprovides : (disk s).Provides (Path.ofComponents root.components) := by
      refine Or.inr ⟨by rw [hmake], ?_⟩
      rw [hmake, Disk.isDirectory, hlocate]
    obtain ⟨t, hrun, hdirectory, hdisk⟩ :=
      run_makeTree_of_provides hcall (congrArg Path.ofComponents hcomponents) hprovides
    rw [hmake] at hdisk
    exact ⟨t, hrun, hdirectory, hdisk⟩

/-- The directories above a source are there when they have been made, and everything else is
kept. -/
theorem run_makeTree (hcall : Reliable σ .makeDirectory) (hfirst : first.LeadsToEmpty root base)
    (hname : isQualifiedIdentifier typeName = true) (hfits : Fits root typeName)
    {segments : List String} (hsegments : segments <+: packageSegments typeName)
    (h : Keeping first base files (disk s)) :
    ∃ t, (Volume.makeTree (root.components ++ segments.map Path.Component.name).reverse :
        StateM σ (Except Fault Unit)).run s = (.ok (), t) ∧
      directory t = directory s ∧ Keeping first base files (disk t) ∧
      (disk t).HasDirectories base segments := by
  induction segments using List.reverseRecOn generalizing s with
  | nil =>
    obtain ⟨t, hrun, hdirectory, hdisk⟩ := run_makeTree_root hcall hfirst hname hfits h
    rw [List.map_nil, List.append_nil]
    refine ⟨t, hrun, hdirectory, hdisk ▸ h, fun front hfront => ?_⟩
    rw [List.prefix_nil.mp hfront, List.append_nil, hdisk, h.base_eq hfirst]
  | append_singleton init name ih =>
    have hidentifiers : ∀ part ∈ init ++ [name], isIdentifier part = true := fun part hmem =>
      isIdentifier_of_mem_packageSegments hname (hsegments.subset hmem)
    have hnames : ∀ part ∈ init ++ [name], IsEntryName part := fun part hmem =>
      Keeping.isEntryName_of_isIdentifier (hidentifiers part hmem)
        (hfits.size_le part (List.mem_append_left _ (hsegments.subset hmem)))
    have hpath := isBelow_ofComponents hname hfits.admissible hsegments (by simp)
    have hreverse : (root.components ++ (init ++ [name]).map Path.Component.name).reverse =
        .name name :: (root.components ++ init.map Path.Component.name).reverse := by simp
    have hofComponents : Path.ofComponents
        (.name name :: (root.components ++ init.map Path.Component.name).reverse).reverse =
          Path.ofComponents (root.components ++ (init ++ [name]).map Path.Component.name) := by
      rw [← hreverse, List.reverse_reverse]
    rw [hreverse]
    generalize Path.ofComponents (root.components ++ (init ++ [name]).map Path.Component.name) =
      path at hpath hofComponents
    by_cases hthere : (disk s).HasDirectories base init
    · obtain ⟨hprovides, hkeeping, hdirectories⟩ :=
        h.makeDirectory_of_hasDirectories hfirst hpath hidentifiers hnames hthere
      obtain ⟨t, hrun, hdirectory, hdisk⟩ :=
        run_makeTree_of_provides hcall hofComponents hprovides
      rw [← hdisk] at hkeeping hdirectories
      exact ⟨t, hrun, hdirectory, hkeeping, hdirectories⟩
    · obtain ⟨t, htdirectory, htdisk, hgoes⟩ := run_makeTree_of_notFound hcall hofComponents
        (h.makeDirectory_of_not_hasDirectories hfirst hpath hidentifiers hnames hthere)
      rw [← htdisk] at h
      obtain ⟨u, habove, hudirectory, hu, huthere⟩ :=
        ih ((List.prefix_append init [name]).trans hsegments) h
      obtain ⟨hprovides, hkeeping, hdirectories⟩ :=
        hu.makeDirectory_of_hasDirectories hfirst hpath hidentifiers hnames huthere
      obtain ⟨v, hrun, hvdirectory, hvdisk⟩ := hgoes u habove hprovides
      rw [← hvdisk] at hkeeping hdirectories
      exact ⟨v, hrun, by rw [hvdirectory, hudirectory, htdirectory], hkeeping, hdirectories⟩

/-- The directories that a source lies in can be made. -/
theorem run_makeParents (hcall : Reliable σ .makeDirectory)
    (hfirst : first.LeadsToEmpty root base) (hname : isQualifiedIdentifier typeName = true)
    (hfits : Fits root typeName) {s : σ} (h : Keeping first base files (disk s)) :
    ∃ t, (Volume.makeParents (root.join (sourcePath typeName)) :
        StateM σ (Except Fault Unit)).run s = (.ok (), t) ∧
      directory t = directory s ∧ Keeping first base files (disk t) ∧
      (disk t).HasDirectories base (packageSegments typeName) := by
  have hcomponents := components_join_sourcePath root hname
  rw [sourceNames, List.map_append, ← List.append_assoc] at hcomponents
  have hparent : (root.join (sourcePath typeName)).parent? =
      some (Path.ofComponents (root.components ++
        (packageSegments typeName).map Path.Component.name)) := by
    rw [Path.parent?, hcomponents]
    simp
  have hparentComponents := Path.components_parent? hparent
  rw [hcomponents, List.map_singleton, List.dropLast_concat] at hparentComponents
  rw [Volume.makeParents, hparent]
  simp only [hparentComponents]
  exact run_makeTree hcall hfirst hname hfits (List.prefix_refl _) h

namespace Directory

/-- The file of a type is open and listed when the directories above it are there and the disk lets
it be created. -/
theorem run_create_of_run_makeParents (hcreate : Reliable σ .create) {t : σ}
    (hpath : (directory s).pathFor typeName = path)
    (hparents : (Volume.makeParents path : StateM σ (Except Fault Unit)).run s = (.ok (), t))
    (hdirectory : directory t = directory s) {place : Location}
    (hopens : ((disk t).create path).1 = .ok place) :
    ∃ u, ((filer : Filer (StateM σ)).create typeName).run s =
        (.ok { name := path.text, events := [.created path] }, u) ∧
      directory u = { directory s with
        written := record path (directory s).written, output := some { handle := place } } ∧
      disk u = ((disk t).create path).2 := by
  obtain ⟨v, hopen, hvdirectory, hvdisk⟩ := OnDisk.run_create hcreate path t
  rw [hopens] at hopen
  rcases hrecord : (modifyThe (Directory Location) fun directory => { directory with
      written := record path directory.written
      output := some { handle := place } } : StateM σ Unit).run v with ⟨_, u⟩
  obtain ⟨hudirectory, hudisk⟩ := modify_spec _ _ _ _ hrecord
  refine ⟨u, ?_, by rw [hudirectory, hvdirectory, hdirectory], by rw [hudisk, hvdisk]⟩
  simp only [filer, openFile, run_bind, run_get, hpath, hparents, hopen, hrecord, run_pure]

/-- The file of a source can be opened: then it is kept, empty, with everything else. -/
theorem run_create (hmake : Reliable σ .makeDirectory) (hcreate : Reliable σ .create)
    (hfirst : first.LeadsToEmpty root base) (hname : isQualifiedIdentifier typeName = true)
    (hfits : Fits root typeName) (hroot : (directory s).root = root)
    (h : Keeping first base files (disk s)) :
    ∃ t, ((filer : Filer (StateM σ)).create typeName).run s =
        (.ok { name := (root.join (sourcePath typeName)).text,
               events := [.created (root.join (sourcePath typeName))] }, t) ∧
      directory t = { directory s with
        written := record (root.join (sourcePath typeName)) (directory s).written
        output := some { handle := base ++ sourceNames typeName } } ∧
      Keeping first base (files.insert typeName []) (disk t) := by
  obtain ⟨u, hparents, hudirectory, hu, hthere⟩ := run_makeParents hmake hfirst hname hfits h
  have hopen := hu.create_of_hasDirectories hfirst hname hfits hthere
  obtain ⟨t, hrun, hdirectory, hdisk⟩ := run_create_of_run_makeParents hcreate
    (by rw [Directory.pathFor, hroot]) hparents hudirectory (by rw [hopen])
  refine ⟨t, hrun, hdirectory, ?_⟩
  rw [hdisk, hopen]
  exact hu.putFile (hthere _ (List.prefix_refl _)) []

end Directory

end ToStringGen
