import ToStringGen.Proofs.Filer.Reach
import ToStringGen.Proofs.Manifest
import ToStringGen.Proofs.Processing.Account
import ToStringGen.Proofs.Reporting

/-!
# Classes stay below the output directory and apart

The path of a class is the output directory followed by plain names, one for each segment
of the type, the last of them with the ending of source files. This ending has a dot,
which no segment of a package has, so that the paths of different classes differ and none
leads through another. What `generate` reaches for, once a valid manifest is loaded, are
such paths and the directories above them.
-/

namespace ToStringGen

open Java Java.QualifiedName

/-- What stands between the text of a path and what is appended to it. -/
def Path.separator (path : Path) : String :=
  match path.text.toList.getLast? with
  | none => ""
  | some '/' => ""
  | some _ => "/"

/-- Names joined by slashes stand after a path and its separator. -/
theorem Path.text_join (path : Path) {names : List String} (h : ∀ name ∈ names, IsName name)
    (hne : names ≠ []) :
    (path.join ⟨String.intercalate "/" names⟩).text =
      path.text ++ path.separator ++ String.intercalate "/" names := by
  unfold join push separator
  rw [if_neg (head?_intercalate_names h hne)]
  cases hlast : path.text.toList.getLast? with
  | none =>
    have hempty : path.text = "" :=
      String.toList_eq_nil_iff.mp (List.getLast?_eq_none_iff.mp hlast)
    simp [hempty]
  | some c =>
    by_cases hslash : c = '/'
    · simp [hslash]
    · simp [String.append_assoc]

/-- The path of a class is the output directory followed by plain names only. -/
structure LiesBelow (root : Path) (typeName : String) : Prop where
  /-- The name of the class is accepted again. -/
  accepted : isQualifiedIdentifier (Subclass.nameOf typeName) = true
  pathFor_eq : ∀ {Handle : Type} (directory : Directory Handle), directory.root = root →
    directory.pathFor (Subclass.nameOf typeName) = classPath root typeName
  exists_names : ∃ names : List String,
    (classPath root typeName).text =
      root.text ++ root.separator ++ String.intercalate "/" names ∧
    (classPath root typeName).components = root.components ++ names.map .name ∧
    (∀ name ∈ names, Path.IsName name) ∧
    names.length = (segments typeName).length ∧
    ∃ file, names.getLast? = some (file ++ ".java")

/-- Neither of two paths is the other, or leads through it. -/
structure KeepApart (path other : Path) : Prop where
  ne : path ≠ other
  not_above : ¬path.components <+: other.components
  not_below : ¬other.components <+: path.components

/-- The path of the class of an accepted name lies below the output directory. -/
theorem liesBelow (root : Path) {typeName : String} (h : isQualifiedIdentifier typeName = true) :
    LiesBelow root typeName := by
  have haccepted := Subclass.isQualifiedIdentifier_nameOf h
  have hnames : ∀ name ∈ sourceNames (Subclass.nameOf typeName), Path.IsName name :=
    fun name hmem => isName_of_mem_sourceNames haccepted hmem
  refine ⟨haccepted, fun directory hroot => ?_, sourceNames (Subclass.nameOf typeName), ?_, ?_,
    hnames, ?_, ?_⟩
  · rw [Directory.pathFor, hroot, classPath]
  · rw [classPath, sourcePath_eq haccepted]
    exact Path.text_join root hnames (sourceNames_ne_nil _)
  · exact components_join_sourcePath root haccepted
  · rw [sourceNames, Subclass.packageSegments_nameOf, segments_eq typeName]
    simp
  · exact ⟨simple (Subclass.nameOf typeName), by rw [sourceNames, List.getLast?_concat]; rfl⟩

/-- If the names to one source are the first of those to another, they are all of them: the
ending of a file has a dot, and no directory on the way has one. -/
theorem eq_of_sourceNames_isPrefix {name other : String}
    (hother : isQualifiedIdentifier other = true)
    (h : sourceNames name <+: sourceNames other) : name = other := by
  rw [sourceNames, sourceNames, List.prefix_concat_iff] at h
  rcases h with hsame | hfront
  · exact sourceNames_injective hsame
  · have hfile : simple name ++ sourceEnding ∈ packageSegments other :=
      hfront.subset (by simp)
    have hidentifier := isIdentifier_of_mem_packageSegments hother hfile
    rw [isIdentifier_append_sourceEnding] at hidentifier
    exact absurd hidentifier Bool.false_ne_true

/-- If the path of one class leads to, or through, that of another, the types are the same. -/
theorem eq_of_components_isPrefix {root : Path} {typeName other : String}
    (h : isQualifiedIdentifier typeName = true) (hother : isQualifiedIdentifier other = true)
    (hfront : (classPath root typeName).components <+: (classPath root other).components) :
    typeName = other := by
  rw [classPath, classPath, components_join_sourcePath root
    (Subclass.isQualifiedIdentifier_nameOf h), components_join_sourcePath root
    (Subclass.isQualifiedIdentifier_nameOf hother), List.prefix_append_right_inj,
    List.prefix_map_iff] at hfront
  obtain ⟨names, hnames, hmap⟩ := hfront
  have hinjective : Function.Injective Path.Component.name :=
    fun _ _ heq => Path.Component.name.inj heq
  rw [← hinjective.list_map hmap] at hnames
  exact Subclass.nameOf_injective
    (eq_of_sourceNames_isPrefix (Subclass.isQualifiedIdentifier_nameOf hother) hnames)

/-- The paths of the classes of different types keep apart. -/
theorem keepApart {root : Path} {typeName other : String}
    (h : isQualifiedIdentifier typeName = true) (hother : isQualifiedIdentifier other = true)
    (hne : typeName ≠ other) : KeepApart (classPath root typeName) (classPath root other) where
  ne heq := hne (eq_of_components_classPath h hother (congrArg Path.components heq))
  not_above hfront := hne (eq_of_components_isPrefix h hother hfront)
  not_below hfront := hne (eq_of_components_isPrefix hother h hfront).symm

/-- An access that stays below the output directory and out of the way of all classes: a file is
opened or removed at the path of a class, and directories are made and looked for above such a
path, but at none. -/
inductive Access.IsConfined (root : Path) (declarations : List TypeDeclaration) : Access → Prop
  | create {declaration : TypeDeclaration} (hmem : declaration ∈ declarations)
      (hbelow : LiesBelow root declaration.qualifiedName) :
      IsConfined root declarations (.create (classPath root declaration.qualifiedName))
  | remove {declaration : TypeDeclaration} (hmem : declaration ∈ declarations)
      (hbelow : LiesBelow root declaration.qualifiedName) :
      IsConfined root declarations (.remove (classPath root declaration.qualifiedName))
  | makeDirectory {declaration : TypeDeclaration} {path : Path} (hmem : declaration ∈ declarations)
      (habove : path.components <+: (classPath root declaration.qualifiedName).components)
      (hfree : ∀ other ∈ declarations,
        path.components ≠ (classPath root other.qualifiedName).components) :
      IsConfined root declarations (.makeDirectory path)
  | look {declaration : TypeDeclaration} {path : Path} (hmem : declaration ∈ declarations)
      (habove : path.components <+: (classPath root declaration.qualifiedName).components)
      (hfree : ∀ other ∈ declarations,
        path.components ≠ (classPath root other.qualifiedName).components) :
      IsConfined root declarations (.look path)

/-- A directory above the path of a class is at the path of none. -/
theorem components_ofComponents_above {root : Path} {typeName : String}
    {front rest : List Path.Component} (h : isQualifiedIdentifier typeName = true)
    (hrest : rest ≠ []) (hfront : front ++ rest = (classPath root typeName).components) :
    (Path.ofComponents front).components <+: (classPath root typeName).components ∧
      ∀ other, isQualifiedIdentifier other = true →
        (Path.ofComponents front).components ≠ (classPath root other).components := by
  have habove : front <+: (classPath root typeName).components := ⟨rest, hfront⟩
  rw [Path.components_ofComponents_front habove]
  refine ⟨habove, fun other hother heq => hrest ?_⟩
  rw [heq] at habove
  have hsame := eq_of_components_isPrefix hother h habove
  rw [heq, hsame] at hfront
  exact List.append_right_eq_self.mp hfront

/-- What filing the class of a well-formed declaration reaches for is confined. -/
theorem Access.Files.isConfined {root : Path} {declarations : List TypeDeclaration}
    (hnames : ∀ declaration ∈ declarations,
      isQualifiedIdentifier declaration.qualifiedName = true)
    {declaration : TypeDeclaration} (hmem : declaration ∈ declarations) {access : Access}
    (h : Access.Files (classPath root declaration.qualifiedName) access) :
    access.IsConfined root declarations := by
  have hname := hnames declaration hmem
  cases h with
  | create => exact .create hmem (liesBelow root hname)
  | remove => exact .remove hmem (liesBelow root hname)
  | makeDirectory hrest hfront =>
    obtain ⟨habove, hfree⟩ := components_ofComponents_above hname hrest hfront
    exact .makeDirectory hmem habove fun other hother => hfree _ (hnames other hother)
  | look hrest hfront =>
    obtain ⟨habove, hfree⟩ := components_ofComponents_above hname hrest hfront
    exact .look hmem habove fun other hother => hfree _ (hnames other hother)

/-- What filing the classes of declarations reaches for. -/
def Access.FilesClasses (root : Path) (declarations : List TypeDeclaration)
    (access : Access) : Prop :=
  ∃ declaration ∈ declarations, Access.Files (classPath root declaration.qualifiedName) access

namespace ReachesOnly

variable {Handle σ : Type} [Volume Handle (StateM σ)] {root : Path}

/-- Processing a declaration files its class at most. -/
theorem processType (declaration : TypeDeclaration) :
    ReachesOnly root (Access.Files (classPath root declaration.qualifiedName))
      (Processor.processType (Directory.filer : Filer (StateM (Watched Handle σ)))
        declaration) := by
  refine Processor.processType_cases _ declaration (fun _ => .pure _) (fun _ _ => .pure _)
    fun _ _ => ?_
  exact (writeArtifact declaration.classArtifact).bind fun _ => .pure _

/-- Processing declarations files their classes at most. -/
theorem processAll (declarations : List TypeDeclaration) :
    ReachesOnly root (Access.FilesClasses root declarations)
      (Processor.processAll (Directory.filer : Filer (StateM (Watched Handle σ)))
        declarations) := by
  induction declarations with
  | nil => exact .pure _
  | cons declaration rest ih =>
    rw [Processor.processAll]
    refine ((processType declaration).mono fun access h => ?_).bind fun _ => ?_
    · exact ⟨declaration, List.mem_cons_self .., h⟩
    · refine (ih.mono ?_).bind fun _ => .pure _
      rintro access ⟨other, hmem, h⟩
      exact ⟨other, List.mem_cons_of_mem _ hmem, h⟩

/-- Resolving settings looks for files at most. -/
theorem resolve (overrides : Command.Overrides) :
    ReachesOnly root (fun access => ∃ path, access = .look path)
      (Command.resolve overrides :
        StateM (Watched Handle σ) (Except Command.Failure Settings)) := by
  have hpath : ReachesOnly root (fun access => ∃ path, access = .look path)
      (Command.configPath overrides : StateM (Watched Handle σ) (Option Path)) := by
    unfold Command.configPath
    split
    · exact .pure _
    · exact (askAt ⟨_, rfl⟩ _).bind fun _ => .pure _
  have hload : ∀ path, ReachesOnly root (fun access => ∃ path, access = .look path)
      (Command.loadFile path :
        StateM (Watched Handle σ) (Except SettingsError Settings)) := by
    intro path
    refine (askAt ⟨path, rfl⟩ _).bind fun result => ?_
    split <;> exact .pure _
  unfold Command.resolve
  refine hpath.bind fun path => ?_
  split
  · exact .pure _
  · refine (hload _).bind fun result => ?_
    split <;> exact .pure _

/-- Loading a manifest looks for its file. -/
theorem loadManifest (path : Path) :
    ReachesOnly root (fun access => ∃ path, access = .look path)
      (Command.loadManifest path :
        StateM (Watched Handle σ) (Except ManifestError Manifest)) := by
  have hread : ReachesOnly root (fun access => ∃ path, access = .look path)
      (Volume.readText path : StateM (Watched Handle σ) (Except Fault String)) := by
    refine (askAt ⟨path, rfl⟩ _).bind fun result => ?_
    split
    · exact .pure _
    · split <;> exact .pure _
  refine hread.bind fun result => ?_
  split <;> exact .pure _

end ReachesOnly

namespace Command

variable {Handle σ : Type} [Volume Handle (StateM σ)]

/-- Executing a manifest files the classes of its declarations at most. -/
theorem execute_reaches (settings : Settings) (manifest : Manifest) (dryRun : Bool)
    (s : Watched Handle σ) :
    ∀ access ∈ ((execute settings manifest dryRun :
        StateM (Watched Handle σ) Execution).run s).2.accesses,
      access ∈ s.accesses ∨ Access.FilesClasses settings.outputDir manifest.types access := by
  cases dryRun with
  | true => exact fun access hmem => Or.inl hmem
  | false =>
    have hfound : (manifest.pool.find settings.marker).1 ⊆ manifest.types := by
      rw [Manifest.pool, Pool.find_ofList]
      exact (Pool.firstOfEachName_sublist settings.marker manifest.types).subset
    have hrun : ReachesOnly settings.outputDir
        (Access.FilesClasses settings.outputDir manifest.types)
        ((Processor.ofSettings settings).runToCompletion
          (Directory.filer : Filer (StateM (Watched Handle σ))) manifest.pool) := by
      rw [Processor.runToCompletion_eq, map_eq_pure_bind]
      refine ((ReachesOnly.processAll _).mono ?_).bind fun _ => .pure _
      rintro access ⟨declaration, hmem, h⟩
      exact ⟨declaration, hfound hmem, h⟩
    exact (hrun { s with directory := { root := settings.outputDir } } rfl).2

/-- The classes of a valid manifest stay below the output directory and apart. Below any output
directory the path of the class of an accepted name is that directory followed by plain names
only, one for each segment, the last with the ending of source files. The paths of the classes of
different accepted names differ, and none leads through another. Once `generate` has resolved
settings and loaded a valid manifest, for which it only looks for files, all that it reaches for
are such paths and directories above them, which are at the path of no class. -/
theorem classes_areConfined :
    (∀ (root : Path) (typeName : String), isQualifiedIdentifier typeName = true →
      LiesBelow root typeName) ∧
    (∀ (root : Path) (typeName other : String), isQualifiedIdentifier typeName = true →
      isQualifiedIdentifier other = true → typeName ≠ other →
        KeepApart (classPath root typeName) (classPath root other)) ∧
    (∀ {Handle σ : Type} [Volume Handle (StateM σ)] (options : GenerateOptions)
        (settings : Settings) (manifest : Manifest) (s r u : Watched Handle σ),
      (resolve options.overrides : StateM (Watched Handle σ) (Except Failure Settings)).run s =
        (.ok settings, r) →
      (loadManifest options.manifest :
        StateM (Watched Handle σ) (Except ManifestError Manifest)).run r = (.ok manifest, u) →
      manifest.validate = .ok () →
      (∀ access ∈ u.accesses, access ∈ s.accesses ∨ ∃ path, access = .look path) ∧
      ∀ access ∈ ((generate options : StateM (Watched Handle σ) Transcript).run s).2.accesses,
        access ∈ u.accesses ∨ access.IsConfined settings.outputDir manifest.types) := by
  refine ⟨fun root typeName h => liesBelow root h,
    fun root typeName other h hother hne => keepApart h hother hne, ?_⟩
  intro Handle σ _ options settings manifest s r u hresolve hload hvalid
  constructor
  · have hlooks : ReachesOnly s.directory.root (fun access => ∃ path, access = .look path)
        (resolve options.overrides >>= fun _ => loadManifest options.manifest :
          StateM (Watched Handle σ) (Except ManifestError Manifest)) :=
      (ReachesOnly.resolve _).bind fun _ => ReachesOnly.loadManifest _
    have hu := (hlooks s rfl).2
    rw [run_bind, hresolve, hload] at hu
    exact hu
  · intro access hmem
    obtain ⟨transcript, hrun, _⟩ := run_generate hresolve hload hvalid
    rw [hrun] at hmem
    have hnames : ∀ declaration ∈ manifest.types,
        isQualifiedIdentifier declaration.qualifiedName = true := fun declaration hmem =>
      ((Manifest.validate_eq_ok_iff.mp hvalid).2.1 declaration hmem).name
    rcases execute_reaches settings manifest options.dryRun u access hmem with hmem | hfiles
    · exact Or.inl hmem
    · obtain ⟨declaration, hdeclaration, hfiles⟩ := hfiles
      exact Or.inr (hfiles.isConfined hnames hdeclaration)

/-- A workspace with a manifest, watched. -/
def watchedManifest : Watched Location Workspace where
  directory := { root := ⟨""⟩ }
  volume := manifestInTheWay

/-- A type and one in a package of its name have classes that keep apart, and the run over a
manifest of one type stays below its output directory. -/
theorem classes_areConfined_watchedManifest :
    let options : GenerateOptions := { manifest := ⟨"m"⟩, output := some ⟨"o"⟩ }
    let settings : Settings := { outputDir := ⟨"o"⟩ }
    let resolved : Watched Location Workspace :=
      { watchedManifest with accesses := [.look defaultConfig] }
    let loaded : Watched Location Workspace :=
      { watchedManifest with accesses := [.look defaultConfig, .look ⟨"m"⟩] }
    isQualifiedIdentifier "geo.Point" = true ∧ isQualifiedIdentifier "geo.Point.Inner" = true ∧
      "geo.Point" ≠ "geo.Point.Inner" ∧ LiesBelow ⟨"o"⟩ "geo.Point" ∧
      KeepApart (classPath ⟨"o"⟩ "geo.Point") (classPath ⟨"o"⟩ "geo.Point.Inner") ∧
      (resolve options.overrides :
        StateM (Watched Location Workspace) (Except Failure Settings)).run watchedManifest =
          (.ok settings, resolved) ∧
      (loadManifest options.manifest :
        StateM (Watched Location Workspace) (Except ManifestError Manifest)).run resolved =
          (.ok oneClass, loaded) ∧
      oneClass.validate = .ok () ∧
      ∀ access ∈ ((generate options : StateM (Watched Location Workspace) Transcript).run
          watchedManifest).2.accesses,
        access ∈ [.look defaultConfig, .look ⟨"m"⟩] ∨
          access.IsConfined settings.outputDir oneClass.types := by
  intro options settings resolved loaded
  have hpoint : isQualifiedIdentifier "geo.Point" = true := by decide +kernel
  have hinner : isQualifiedIdentifier "geo.Point.Inner" = true := by decide +kernel
  have hne : "geo.Point" ≠ "geo.Point.Inner" := by decide
  have hresolve : (resolve options.overrides :
      StateM (Watched Location Workspace) (Except Failure Settings)).run watchedManifest =
        (.ok settings, resolved) := by
    have hfinish : options.overrides.finish {} = .ok settings := by decide +kernel
    rw [← hfinish]
    exact run_resolve_of_isFile_eq_false rfl (congrArg (·, resolved) isFile_manifestInTheWay)
  have hload : (loadManifest options.manifest :
      StateM (Watched Location Workspace) (Except ManifestError Manifest)).run resolved =
        (.ok oneClass, loaded) := by
    rw [← ofToml_oneClassText]
    exact run_loadManifest_of_read (congrArg (·, loaded) read_manifestInTheWay)
  have hvalid : oneClass.validate = .ok () := by decide +kernel
  obtain ⟨hbelow, hapart, hreaches⟩ := classes_areConfined
  exact ⟨hpoint, hinner, hne, hbelow _ _ hpoint, hapart _ _ _ hpoint hinner hne, hresolve, hload,
    hvalid, (hreaches options settings oneClass _ _ _ hresolve hload hvalid).2⟩

end Command

end ToStringGen
