import ToStringGen.Proofs.Execution
import ToStringGen.Proofs.Filer.Store
import ToStringGen.Proofs.Processing.Stores
import ToStringGen.Proofs.Text.ByteOrder

/-!
# Rehearsing a run

A dry run keeps the classes in memory and shows them sorted by their names; a real run
writes them to an empty output directory in the order of discovery. Both store every
class. They have the same report and the same diagnostics, and the sources that the one
shows are the files that the other leaves.
-/

namespace ToStringGen

open Java Java.QualifiedName
open Log (Event)
open Text (Bytes)
open Disk OnDisk

/-- The relative path of a source leads through its names. -/
theorem Disk.steps_sourcePath {name : String} (h : isQualifiedIdentifier name = true) :
    steps (sourcePath name).text = sourceNames name := by
  have hjoin := steps_join ⟨""⟩ (fun part hmem => isName_of_mem_sourceNames h hmem)
    (sourceNames_ne_nil name)
  have hempty : ((Path.mk "").front.filter (!·.isEmpty)).map String.ofList = [] := by decide
  have hroot : ∀ path : Path, (Path.mk "").join path = path := by
    intro path
    rw [Path.join, Path.push]
    split <;> rfl
  rw [hempty, hroot, List.nil_append] at hjoin
  rw [sourcePath_eq h]
  exact hjoin

namespace Memory

variable {declaration : TypeDeclaration} {declarations : List TypeDeclaration} {name : String}
  {contents : Bytes}

/-- Names are in the order of their bytes. -/
theorem names_ascending (memory : Memory) :
    memory.names.Pairwise fun name other => Text.Utf8.encode name < Text.Utf8.encode other := by
  have hordered : memory.names.Pairwise fun name other => compare name other = .lt :=
    memory.files.ordered_keys
  refine hordered.imp fun {name other} h => ?_
  exact Text.Utf8.encode_lt_encode (compareOfLessAndEq_eq_lt.mp h)

/-- The files in memory as sources, in the order of their names. -/
def sources (memory : Memory) : List Artifact :=
  memory.names.map fun name => { qualifiedName := name, body := (memory.get? name).getD "" }

/-- When their classes have different names, memory holds the classes of the declarations and
nothing else. -/
theorem entry_putAll_empty_iff
    (hnodup : (declarations.map TypeDeclaration.className).Nodup) :
    entry name (putAll {} declarations) = some contents ↔
      ∃ declaration ∈ declarations, declaration.Generates ∧ declaration.className = name ∧
        Text.Utf8.encode declaration.classArtifact.body = contents := by
  have hholds : ∀ declaration ∈ declarations, declaration.Generates →
      entry declaration.className (putAll {} declarations) =
        some (Text.Utf8.encode declaration.classArtifact.body) := by
    intro declaration hmem hgenerates
    obtain ⟨earlier, later, rfl⟩ := List.append_of_mem hmem
    refine entry_putAll_of_last hgenerates (fun other hother _ heq => ?_) {}
    rw [List.map_append, List.map_cons] at hnodup
    have hlater := (List.nodup_cons.mp hnodup.of_append_right).1
    exact hlater (List.mem_map.mpr ⟨other, hother, heq⟩)
  constructor
  · intro hentry
    by_cases hnamed : ∃ declaration ∈ declarations,
        declaration.Generates ∧ declaration.className = name
    · obtain ⟨declaration, hmem, hgenerates, rfl⟩ := hnamed
      have hsource := hholds declaration hmem hgenerates
      exact ⟨declaration, hmem, hgenerates, rfl, Option.some.inj (hsource.symm.trans hentry)⟩
    · have hother : ∀ declaration ∈ declarations, declaration.Generates →
          declaration.className ≠ name :=
        fun declaration hmem hgenerates heq => hnamed ⟨declaration, hmem, hgenerates, heq⟩
      have hnone := entry_putAll_of_other hother {}
      rw [hentry] at hnone
      simp [entry] at hnone
  · rintro ⟨declaration, hmem, hgenerates, rfl, rfl⟩
    exact hholds declaration hmem hgenerates

/-- The sources in memory are those of the classes, in another order. -/
theorem sources_perm (hnodup : (declarations.map TypeDeclaration.className).Nodup) :
    (putAll {} declarations).sources.Perm
      ((declarations.filter fun declaration => declaration.Generates).map
        TypeDeclaration.classArtifact) := by
  have hget : ∀ declaration ∈ declarations, declaration.Generates →
      declaration.className ∈ (putAll {} declarations).names ∧
        (putAll {} declarations).get? declaration.className =
          some declaration.classArtifact.body := by
    intro declaration hmem hgenerates
    have hentry := (entry_putAll_empty_iff hnodup).mpr ⟨declaration, hmem, hgenerates, rfl, rfl⟩
    constructor
    · exact Std.ExtTreeMap.mem_keys.mpr (Std.ExtTreeMap.mem_iff_isSome_getElem?.mpr
        (Option.isSome_iff_exists.mpr ⟨_, hentry⟩))
    · have hdecode := Text.Utf8.decode?_encode declaration.classArtifact.body
      change (entry declaration.className (putAll {} declarations)).bind Text.Utf8.decode? = _
      rw [hentry]
      exact hdecode
  refine (List.perm_ext_iff_of_nodup ?_ ?_).mpr fun source => ?_
  · refine List.Nodup.of_map Artifact.qualifiedName ?_
    rw [sources, List.map_map]
    exact (List.map_id _).symm ▸ Std.ExtTreeMap.nodup_keys
  · refine List.Nodup.of_map Artifact.qualifiedName ?_
    rw [List.map_map]
    exact hnodup.sublist (List.filter_sublist.map _)
  · simp only [sources, List.mem_map, List.mem_filter, decide_eq_true_iff]
    constructor
    · rintro ⟨name, hname, rfl⟩
      have hthere := Std.ExtTreeMap.mem_iff_isSome_getElem?.mp (Std.ExtTreeMap.mem_keys.mp hname)
      obtain ⟨contents, hentry⟩ := Option.isSome_iff_exists.mp hthere
      obtain ⟨declaration, hmem, hgenerates, rfl, _⟩ := (entry_putAll_empty_iff hnodup).mp hentry
      refine ⟨declaration, ⟨hmem, hgenerates⟩, ?_⟩
      rw [(hget declaration hmem hgenerates).2]
      rfl
    · rintro ⟨declaration, ⟨hmem, hgenerates⟩, rfl⟩
      obtain ⟨hname, hbody⟩ := hget declaration hmem hgenerates
      refine ⟨declaration.className, hname, ?_⟩
      rw [hbody]
      rfl

end Memory

/-- Below a directory that is empty at first a filer stores all classes whose files have room, when
no call goes wrong by itself. -/
theorem Directory.stores {σ : Type} [Volume Location (StateM σ)]
    [MonadStateOf (Directory Location) (StateM σ)] [OnDisk σ] {first : Disk} {root : Path}
    {base : Location} {declarations : List TypeDeclaration} (hcalls : ∀ call, Reliable σ call)
    (hfirst : first.LeadsToEmpty root base)
    (hnames : ∀ declaration ∈ declarations,
      isQualifiedIdentifier declaration.className = true)
    (hfits : ∀ declaration ∈ declarations, declaration.Generates →
      Fits root declaration.className) :
    Stores (Directory.filer : Filer (StateM σ))
      (fun memory s => (directory s).root = root ∧ Keeping first base memory.files (disk s))
      declarations := by
  rintro declaration hmem hgenerates memory s ⟨hroot, hkeeping⟩
  have hname : isQualifiedIdentifier declaration.classArtifact.qualifiedName = true :=
    hnames declaration hmem
  obtain ⟨t, hrun, hdirectory, hkept⟩ :=
    run_writeArtifact hcalls hfirst hname (hfits declaration hmem hgenerates) hroot hkeeping
  refine ⟨_, t, hrun, ?_, ?_⟩
  · rw [hdirectory]
    exact hroot
  · rw [Memory.put, if_pos hgenerates]
    exact hkept

namespace Manifest

/-- The classes that a run over a manifest is to generate, in the order of discovery. -/
def classes (manifest : Manifest) (marker : String) : List Artifact :=
  ((manifest.annotated marker).filter fun declaration => declaration.Generates).map
    TypeDeclaration.classArtifact

/-- The outcomes that the annotated declarations decide. -/
def outcomes (manifest : Manifest) (marker : String) : List Outcome :=
  (manifest.annotated marker).map fun declaration => declaration.treatment.outcome

variable {manifest : Manifest}

/-- A valid manifest is about classes with accepted names. -/
theorem isQualifiedIdentifier_className (hvalid : manifest.validate = .ok ()) (marker : String) :
    ∀ declaration ∈ manifest.annotated marker,
      isQualifiedIdentifier declaration.className = true := by
  obtain ⟨_, hwell, _⟩ := validate_eq_ok_iff.mp hvalid
  intro declaration hmem
  exact Subclass.isQualifiedIdentifier_nameOf (hwell declaration (List.mem_of_mem_filter hmem)).name

/-- A valid manifest is about classes with different names. -/
theorem nodup_className (hvalid : manifest.validate = .ok ()) (marker : String) :
    ((manifest.annotated marker).map TypeDeclaration.className).Nodup := by
  obtain ⟨_, _, hnodup⟩ := validate_eq_ok_iff.mp hvalid
  have hsub : (manifest.annotated marker).Sublist manifest.types := List.filter_sublist
  have hnames := hnodup.sublist (hsub.map TypeDeclaration.qualifiedName)
  have hclasses := hnames.map Subclass.nameOf_injective
  rw [List.map_map] at hclasses
  exact hclasses

/-- The classes to be generated are those of the outcomes that say so. -/
theorem map_artifact_outcomes (manifest : Manifest) (marker : String) :
    ((manifest.outcomes marker).filter fun outcome => outcome.stage = .generated).map
        Outcome.artifact =
      (manifest.classes marker).map fun source => some source.qualifiedName := by
  rw [outcomes, classes, List.filter_map, List.map_map, List.map_map]
  have hstage : ∀ declaration : TypeDeclaration,
      declaration.treatment.outcome.stage = .generated ↔ declaration.Generates := by
    intro declaration
    rw [TypeDeclaration.treatment, TypeDeclaration.Generates]
    by_cases hoverrides : declaration.overridesToString = true
    · simp [hoverrides, Outcome.overridden]
    · by_cases hfields : declaration.eligibleFields = []
      · simp [hoverrides, hfields, Outcome.withoutFields]
      · simp [hoverrides, hfields, Outcome.ofWriting]
  have hfilter : ((fun outcome : Outcome => decide (outcome.stage = .generated)) ∘
      fun declaration : TypeDeclaration => declaration.treatment.outcome) =
        fun declaration => decide declaration.Generates := by
    funext declaration
    rw [Function.comp_apply, decide_eq_decide]
    exact hstage declaration
  rw [hfilter]
  refine List.map_congr_left fun declaration hmem => ?_
  obtain ⟨hplain, hfields⟩ := of_decide_eq_true (List.mem_filter.mp hmem).2
  simp only [Function.comp_apply, TypeDeclaration.treatment, hplain, hfields,
    Bool.false_eq_true, if_false]
  rfl

end Manifest

namespace Command

/-- A source as it is shown. -/
def shown (source : Artifact) : String :=
  "// " ++ (sourcePath source.qualifiedName).text ++ "\n" ++ source.body ++ "\n"

/-- What a dry run shows is what a real run leaves below the output directory. -/
structure ShowsWritten (classes sources : List Artifact) (base : Location)
    (dry real : Execution) (disk : Disk) : Prop where
  report_eq : dry.report = real.report
  diagnostics_eq : diagnosticsOf dry.events = diagnosticsOf real.events
  /-- There is a class for each outcome that says that one was generated. -/
  artifacts_eq : (dry.report.outcomes.filter fun outcome => outcome.stage = .generated).map
      Outcome.artifact = classes.map fun source => some source.qualifiedName
  /-- The sources are those of the classes, each of them once. -/
  perm : sources.Perm classes
  ascending : sources.Pairwise fun source other =>
    Text.Utf8.encode source.qualifiedName < Text.Utf8.encode other.qualifiedName
  dry_output : dry.output = String.join (sources.map shown) ++ summaryLine dry.report
  real_output : ∃ listing, real.output = listing ++ summaryLine dry.report
  files_iff : ∀ names contents, disk.entry? (base ++ names) = some (.file contents) ↔
    ∃ source ∈ sources, steps (sourcePath source.qualifiedName).text = names ∧
      Text.Utf8.encode source.body = contents

variable {manifest : Manifest} {settings : Settings}

/-- A dry run over a valid manifest shows the sources that memory holds. -/
theorem rehearse_eq (hvalid : manifest.validate = .ok ()) (settings : Settings) :
    let report := (Processor.ofSettings settings).reportOf (manifest.outcomes settings.marker)
    let sources := (Memory.putAll {} (manifest.annotated settings.marker)).sources
    ∃ events,
      diagnosticsOf events =
        (manifest.annotated settings.marker).flatMap (fun declaration =>
          declaration.treatment.due) ∧
      rehearse settings manifest =
        { report, events, output := String.join (sources.map shown) ++ summaryLine report } := by
  intro report sources
  obtain ⟨events, memory, hrun, hdiagnostics, rfl⟩ :=
    (Memory.stores (manifest.annotated settings.marker)).run_processAll (rfl : ({} : Memory) = {})
  have hmarker : (Processor.ofSettings settings).marker = settings.marker := rfl
  refine ⟨(Processor.ofSettings settings).eventsOf (manifest.annotated settings.marker).length
    (manifest.outcomes settings.marker) events, ?_, ?_⟩
  · rw [Processor.diagnosticsOf_eventsOf]
    exact hdiagnostics
  rw [rehearse, Processor.runToCompletion_eq, run_map, hmarker, Manifest.find_pool hvalid, hrun]
  simp only [sources, Memory.sources, List.map_map]
  rfl

/-- A real run over a valid manifest, from a directory that is empty at first, leaves the files that
memory holds. -/
theorem run_perform_of_leadsToEmpty {σ : Type} [Volume Location (StateM σ)]
    [MonadStateOf (Directory Location) (StateM σ)] [OnDisk σ] {s : σ} {base : Location}
    (hcalls : ∀ call, Reliable σ call) (hvalid : manifest.validate = .ok ())
    (hempty : (disk s).LeadsToEmpty settings.outputDir base)
    (hfits : ∀ declaration ∈ manifest.annotated settings.marker, declaration.Generates →
      Fits settings.outputDir declaration.className) :
    ∃ events t,
      (perform settings manifest : StateM σ Execution).run s =
        (executionOf settings (manifest.annotated settings.marker).length
          (manifest.outcomes settings.marker) events, t) ∧
      diagnosticsOf events =
        (manifest.annotated settings.marker).flatMap (fun declaration =>
          declaration.treatment.due) ∧
      Keeping (disk s) base (Memory.putAll {} (manifest.annotated settings.marker)).files
        (disk t) := by
  obtain ⟨u, hudirectory, hudisk, hperform⟩ := run_perform hvalid settings s
  have hstores := Directory.stores hcalls hempty
    (Manifest.isQualifiedIdentifier_className hvalid settings.marker) hfits
  have hnothing : Keeping (disk s) base ({} : Memory).files (disk u) := by
    rw [hudisk]
    exact .of_empty hempty
  obtain ⟨events, t, hrun, hdiagnostics, _, hkeeping⟩ :=
    hstores.run_processAll ⟨by rw [hudirectory], hnothing⟩
  exact ⟨events, t, hperform hrun, hdiagnostics, hkeeping⟩

/-- Below the directory there is a file for each source in memory, where its path leads, and no
other file. -/
theorem entry?_eq_file_iff {first disk : Disk} {root : Path} {base : Location}
    {declarations : List TypeDeclaration} (hfirst : first.LeadsToEmpty root base)
    (hnames : ∀ declaration ∈ declarations,
      isQualifiedIdentifier declaration.className = true)
    (hnodup : (declarations.map TypeDeclaration.className).Nodup)
    (h : Keeping first base (Memory.putAll {} declarations).files disk)
    (names : List String) (contents : Bytes) :
    disk.entry? (base ++ names) = some (.file contents) ↔
      ∃ source ∈ (Memory.putAll {} declarations).sources,
        steps (sourcePath source.qualifiedName).text = names ∧
          Text.Utf8.encode source.body = contents := by
  have hsources : ∀ source, source ∈ (Memory.putAll {} declarations).sources ↔
      ∃ declaration ∈ declarations, declaration.Generates ∧ declaration.classArtifact = source := by
    intro source
    rw [(Memory.sources_perm hnodup).mem_iff]
    simp only [List.mem_map, List.mem_filter, decide_eq_true_iff, and_assoc]
  constructor
  · intro hentry
    by_cases hne : names = []
    · rw [hne, List.append_nil, h.base_eq hfirst] at hentry
      exact Entry.noConfusion (Option.some.inj hentry)
    · rcases h.below names _ hne hentry with
        ⟨hdirectory, _⟩ | ⟨typeName, found, hfile, rfl, hfound⟩
      · exact Entry.noConfusion hdirectory
      · obtain ⟨declaration, hmem, hgenerates, rfl, rfl⟩ :=
          (Memory.entry_putAll_empty_iff hnodup).mp hfile
        refine ⟨declaration.classArtifact, (hsources _).mpr ⟨_, hmem, hgenerates, rfl⟩, ?_, ?_⟩
        · exact steps_sourcePath (hnames declaration hmem)
        · exact (Entry.file.inj hfound).symm
  · rintro ⟨source, hsource, rfl, rfl⟩
    obtain ⟨declaration, hmem, hgenerates, rfl⟩ := (hsources source).mp hsource
    have hfile := (Memory.entry_putAll_empty_iff hnodup).mpr ⟨declaration, hmem, hgenerates,
      rfl, rfl⟩
    have hsteps := steps_sourcePath (hnames declaration hmem)
    change disk.entry? (base ++ steps (sourcePath declaration.className).text) = _
    rw [hsteps]
    exact h.holds _ _ hfile

/-- A dry run shows exactly what a real run writes. Over a valid manifest, and with an output
directory that is empty at first and has room for the files, the two runs have the same report and
the same diagnostics and end with the same line; before it the dry run shows, in the order of the
bytes of their names, the sources of the classes, and these are the files that the real run
leaves. -/
theorem execute_showsWritten (hvalid : manifest.validate = .ok ()) {s : Workspace}
    {base : Location} (hempty : s.disk.LeadsToEmpty settings.outputDir base)
    (hfits : ∀ declaration ∈ manifest.annotated settings.marker, declaration.Generates →
      Fits settings.outputDir declaration.className) :
    let dry := (execute settings manifest true : StateM Workspace Execution).run s
    let real := (execute settings manifest false : StateM Workspace Execution).run s
    ∃ sources, ShowsWritten (manifest.classes settings.marker) sources base dry.1 real.1
      real.2.disk := by
  have hnames := Manifest.isQualifiedIdentifier_className hvalid settings.marker
  have hnodup := Manifest.nodup_className hvalid settings.marker
  obtain ⟨shownEvents, hshown, hdry⟩ := rehearse_eq hvalid settings
  obtain ⟨events, t, hreal, hdiagnostics, hkeeping⟩ :=
    run_perform_of_leadsToEmpty (σ := Workspace) (fun _ => trivial) hvalid hempty hfits
  intro dry real
  have hdry : dry = (_, s) := congrArg (fun execution => (execution, s)) hdry
  have hreal : real = _ := hreal
  refine ⟨(Memory.putAll {} (manifest.annotated settings.marker)).sources, ?_⟩
  rw [hdry, hreal]
  constructor
  · rfl
  · exact hshown.trans
      ((Processor.diagnosticsOf_eventsOf _ _ _ events).trans hdiagnostics).symm
  · rw [Processor.outcomes_reportOf]
    exact Manifest.map_artifact_outcomes manifest settings.marker
  · exact Memory.sources_perm hnodup
  · exact List.pairwise_map.mpr (Memory.names_ascending _)
  · rfl
  · exact ⟨_, rfl⟩
  · exact entry?_eq_file_iff hempty hnames hnodup hkeeping

/-- Two classes to be generated, not in the order of their names, and two types that are left
alone. -/
def unsorted : Manifest where
  types :=
    [typeInX, { qualifiedName := "p.B", annotations := [defaultMarker], methods := ["toString"] },
      typeInP, { qualifiedName := "C", fields := [{ name := "c" }] }]

/-- The dry run shows the class in `p` before the class in `x`, and the real run leaves both. -/
theorem execute_showsWritten_unsorted :
    unsorted.validate = .ok () ∧ emptyOutput.LeadsToEmpty shortOutput.outputDir ["o"] ∧
      (∀ declaration ∈ unsorted.annotated shortOutput.marker, declaration.Generates →
        Fits shortOutput.outputDir declaration.className) ∧
      let s : Workspace := { directory := { root := ⟨"o"⟩ }, disk := emptyOutput }
      let dry := (execute shortOutput unsorted true : StateM Workspace Execution).run s
      let real := (execute shortOutput unsorted false : StateM Workspace Execution).run s
      ∃ sources, ShowsWritten (unsorted.classes shortOutput.marker) sources ["o"] dry.1 real.1
        real.2.disk := by
  have hvalid : unsorted.validate = .ok () := by decide +kernel
  have hfits : ∀ declaration ∈ unsorted.annotated shortOutput.marker, declaration.Generates →
      Fits shortOutput.outputDir declaration.className := by decide +kernel
  exact ⟨hvalid, leadsToEmpty_emptyOutput, hfits,
    execute_showsWritten hvalid leadsToEmpty_emptyOutput hfits⟩

end Command

end ToStringGen
