import ToStringGen.Proofs.Filer.Storing
import ToStringGen.Proofs.Filer.Trial
import ToStringGen.Proofs.Manifest
import ToStringGen.Proofs.Processing.Truth

/-!
# Executing a manifest

A run over a valid manifest tells the truth, whatever goes wrong on the way, as long
as the classes keep files of their own. Links in the output directory may come to lead
two classes to one file, and then it does not.
-/

namespace ToStringGen

open Log (Event)
open Java

/-- Around the events of its only pass, a run over a pool has no events about files. -/
theorem Processor.filing_mem_eventsOf {processor : Processor} {found : Nat}
    {outcomes : List Outcome} {events : List Event} {event : Log.FilingEvent} :
    Event.filing event ∈ processor.eventsOf found outcomes events ↔
      Event.filing event ∈ events := by
  unfold eventsOf closing
  split
  · simp
  · split <;> split <;> simp

namespace Manifest

/-- The declarations that a run is about. -/
def annotated (manifest : Manifest) (marker : String) : List TypeDeclaration :=
  manifest.types.filter fun declaration => declaration.isAnnotatedWith marker

/-- The paths at which a run may write classes. -/
def classPaths (manifest : Manifest) (settings : Settings) : List Path :=
  (manifest.annotated settings.marker).map fun declaration =>
    classPath settings.outputDir declaration.qualifiedName

/-- A run over a valid manifest processes its annotated declarations, once. -/
theorem find_pool {manifest : Manifest} (hvalid : manifest.validate = .ok ()) (marker : String) :
    (manifest.pool.find marker).1 = manifest.annotated marker := by
  obtain ⟨_, _, hnodup⟩ := validate_eq_ok_iff.mp hvalid
  rw [pool, Pool.find_ofList, Pool.firstOfEachName_of_nodup hnodup, annotated]

/-- Without links on the disk, the classes of a valid manifest keep apart. -/
theorem keepsApart_classPaths {manifest : Manifest} (hvalid : manifest.validate = .ok ())
    (settings : Settings) {disk : Disk} (h : disk.HasNoLink) :
    disk.KeepsApart (manifest.classPaths settings) := by
  obtain ⟨_, hwell, _⟩ := validate_eq_ok_iff.mp hvalid
  have hpaths : manifest.classPaths settings =
      ((manifest.annotated settings.marker).map fun declaration =>
        Subclass.nameOf declaration.qualifiedName).map fun name =>
          settings.outputDir.join (QualifiedName.sourcePath name) := by
    rw [List.map_map, classPaths]
    refine List.map_congr_left fun declaration _ => ?_
    rw [Function.comp_apply, classPath]
  rw [hpaths]
  refine Disk.keepsApart_of_hasNoLink h settings.outputDir fun name hmem => ?_
  obtain ⟨declaration, hdeclaration, rfl⟩ := List.mem_map.mp hmem
  exact Subclass.isQualifiedIdentifier_nameOf
    (hwell declaration (List.mem_of_mem_filter hdeclaration)).name

end Manifest

namespace Command

open OnDisk

/-- What processing the annotated declarations of a manifest leaves, from their outcomes. -/
def executionOf (settings : Settings) (found : Nat) (outcomes : List Outcome)
    (events : List Event) : Execution :=
  let report := (Processor.ofSettings settings).reportOf outcomes
  { report
    events := (Processor.ofSettings settings).eventsOf found outcomes events
    output := String.join (report.artifacts.map (writtenLine settings.outputDir)) ++
      summaryLine report }

/-- The outcomes of an execution are those that it was made of. -/
@[simp] theorem outcomes_executionOf (settings : Settings) (found : Nat) (outcomes : List Outcome)
    (events : List Event) :
    (executionOf settings found outcomes events).report.outcomes = outcomes :=
  Processor.outcomes_reportOf _ _

section Performing

variable {σ : Type} [Volume Location (StateM σ)] [MonadStateOf (Directory Location) (StateM σ)]
  [OnDisk σ]

/-- A run over a valid manifest sets up the output directory and processes the annotated
declarations, once. -/
theorem run_perform {manifest : Manifest} (hvalid : manifest.validate = .ok ())
    (settings : Settings) (s : σ) :
    ∃ u, directory u = { root := settings.outputDir } ∧ disk u = disk s ∧
      ∀ {outcomes : List Outcome} {events : List Event} {t : σ},
        (Processor.processAll (Directory.filer : Filer (StateM σ))
          (manifest.annotated settings.marker)).run u = ((outcomes, events), t) →
        (perform settings manifest : StateM σ Execution).run s =
          (executionOf settings (manifest.annotated settings.marker).length outcomes events, t) := by
  rcases hset : (set ({ root := settings.outputDir } : Directory Location) :
    StateM σ PUnit).run s with ⟨_, u⟩
  obtain ⟨hdirectory, hdisk⟩ := set_spec _ _ _ _ hset
  refine ⟨u, hdirectory, hdisk, fun hall => ?_⟩
  have hmarker : (Processor.ofSettings settings).marker = settings.marker := rfl
  rw [perform, run_bind, hset]
  simp only [run_bind, Processor.runToCompletion_eq, run_map, hmarker,
    Manifest.find_pool hvalid, hall, run_pure]
  rfl

/-- Performing a run over a valid manifest tells the truth, whatever fails but removals, when the
paths of the classes keep apart. -/
theorem perform_isTruthful (hremove : Reliable σ .remove)
    {settings : Settings} {manifest : Manifest} (hvalid : manifest.validate = .ok ()) {s : σ}
    (hapart : (disk s).KeepsApart (manifest.classPaths settings)) :
    let run := (perform settings manifest : StateM σ Execution).run s
    IsTruthful settings.outputDir (manifest.annotated settings.marker) run.1
      (directory run.2).written (disk run.2) := by
  obtain ⟨_, hwell, hnodup⟩ := Manifest.validate_eq_ok_iff.mp hvalid
  have hsub : (manifest.annotated settings.marker).Sublist manifest.types := List.filter_sublist
  have hnames : ∀ declaration ∈ manifest.annotated settings.marker,
      isQualifiedIdentifier declaration.qualifiedName = true :=
    fun declaration hmem => (hwell declaration (hsub.subset hmem)).name
  have hnodup := hnodup.sublist (hsub.map TypeDeclaration.qualifiedName)
  intro run
  obtain ⟨u, hudirectory, hudisk, hperform⟩ := run_perform hvalid settings s
  rcases hall : (Processor.processAll (Directory.filer : Filer (StateM σ))
    (manifest.annotated settings.marker)).run u with ⟨⟨outcomes, events⟩, t⟩
  have hpaths : ∀ declaration ∈ manifest.annotated settings.marker,
      classPath settings.outputDir declaration.qualifiedName ∈ manifest.classPaths settings :=
    fun declaration hmem => List.mem_map_of_mem hmem
  have hroot : (directory u).root = settings.outputDir := by rw [hudirectory]
  obtain ⟨_, hwritten, haccounts, _⟩ := Processor.processAll_spec
    (P := Disk.Evolves (manifest.classPaths settings) (disk s)) hnames hnodup hremove hroot
    (by simp [hudirectory])
    (fun declaration hmem => Disk.filingPreserves_evolves _ (hpaths declaration hmem))
    (fun now hnow declaration hmem other hother hne => hapart now hnow _
      (hpaths declaration hmem) _ (hpaths other hother) fun heq =>
        hne (eq_of_components_classPath (hnames _ hmem) (hnames _ hother)
          (congrArg Path.components heq)))
    (hudisk ▸ .start) hall
  have hrun : run = _ := hperform hall
  rw [hudirectory, List.nil_append] at hwritten
  rw [hrun, hwritten]
  exact Accounted.isTruthful haccounts hnodup hnames
    (outcomes_executionOf ..) (fun path => Processor.filing_mem_eventsOf.mp) rfl

end Performing

/-- Executing a manifest in a trial tells the truth, whatever is planned to go wrong but removals,
when the paths of the classes keep apart. -/
theorem execute_isTruthful {plan : Plan} (hremove : ∀ n, plan .remove n = none)
    {settings : Settings} {manifest : Manifest} (hvalid : manifest.validate = .ok ())
    {s : Trial plan} (hapart : s.disk.KeepsApart (manifest.classPaths settings)) :
    let run := (execute settings manifest false : StateM (Trial plan) Execution).run s
    IsTruthful settings.outputDir (manifest.annotated settings.marker) run.1
      run.2.directory.written run.2.disk :=
  perform_isTruthful (σ := Trial plan) hremove hvalid hapart

/-- A type in a package. -/
def typeInP : TypeDeclaration :=
  { qualifiedName := "p.A", annotations := [defaultMarker], fields := [{ name := "a" }] }

/-- A type with the same simple name in another package. -/
def typeInX : TypeDeclaration :=
  { qualifiedName := "x.A", annotations := [defaultMarker], fields := [{ name := "b" }] }

/-- Types in different packages. -/
def twoPackages : Manifest where
  types := [typeInP, typeInX]

/-- Settings with a short output directory. -/
def shortOutput : Settings := { outputDir := ⟨"o"⟩ }

/-- Of the calls that write, every second one fails after ten bytes. -/
def everySecondWrite : Plan
  | .append, calls =>
      if calls % 2 = 0 then some { fault := .system .noSpace, taken := 10 } else none
  | _, _ => none

/-- A run tells the truth when the second of two classes cannot be written whole. -/
theorem execute_isTruthful_everySecondWrite :
    (∀ n, everySecondWrite .remove n = none) ∧ twoPackages.validate = .ok () ∧
      Disk.KeepsApart {} (twoPackages.classPaths shortOutput) ∧
      let run := (execute shortOutput twoPackages false :
        StateM (Trial everySecondWrite) Execution).run
          { directory := { root := shortOutput.outputDir }, disk := {} }
      IsTruthful shortOutput.outputDir (twoPackages.annotated shortOutput.marker) run.1
        run.2.directory.written run.2.disk := by
  have hvalid : twoPackages.validate = .ok () := by decide +kernel
  have hlinks : Disk.HasNoLink {} := by
    intro location target
    rw [Disk.entry?_empty]
    split <;> simp
  have hapart := Manifest.keepsApart_classPaths hvalid shortOutput hlinks
  exact ⟨fun _ => rfl, hvalid, hapart, execute_isTruthful (fun _ => rfl) hvalid hapart⟩

section Links

open Disk

/-- An output directory with a link to a directory that is not there. -/
def linkedOutput : Disk := (({} : Disk).put ["o"] .directory).put ["o", "x"] (.link "p")

/-- The same after that directory was made and a class was written to it. -/
def sharedOutput (contents : Text.Bytes) : Disk :=
  (linkedOutput.put ["o", "p"] .directory).put ["o", "p", "AWithToString.java"] (.file contents)

variable {σ : Type} [Volume Location (StateM σ)] [MonadStateOf (Directory Location) (StateM σ)]
  [OnDisk σ] {s : σ}

/-- A class is generated into the shared file if that is where its file is created. -/
theorem run_processType_of_create (hcalls : ∀ call, Reliable σ call)
    {declaration : TypeDeclaration} {path parent : Path} {before : Disk}
    (hdisk : disk s = before) (hoverrides : declaration.overridesToString = false)
    (hfields : declaration.eligibleFields ≠ [])
    (hpath : (directory s).pathFor declaration.classArtifact.qualifiedName = path)
    (hparent : path.parent? = some parent)
    (hcomponents : Path.ofComponents parent.components = parent) (hne : parent.components ≠ [])
    (hprovides : before.Provides parent)
    (hcreate : (before.makeDirectory parent).2.create path =
      (.ok ["o", "p", "AWithToString.java"], sharedOutput [])) :
    ∃ events t, (Processor.processType (Directory.filer : Filer (StateM σ)) declaration).run s =
        ((.ofWriting declaration.qualifiedName declaration.classArtifact.qualifiedName (.ok ()),
          events), t) ∧
      (directory t).root = (directory s).root ∧
      disk t = sharedOutput (classSource declaration) := by
  have hentry : Disk.entry? (sharedOutput []) ["o", "p", "AWithToString.java"] =
      some (.file []) := by
    rw [sharedOutput, entry?_put _ (by simp), if_pos rfl]
  obtain ⟨t, hrun, hdirectory, htdisk⟩ := Directory.run_writeArtifact_of_provides hcalls hpath
    hparent hcomponents hne (by rw [hdisk]; exact hprovides) (by rw [hdisk]; exact hcreate) hentry
  refine ⟨Processor.writingEvents declaration.qualifiedName (.ok ()) [.created path], t, ?_,
    by rw [hdirectory], ?_⟩
  · rw [Processor.processType_of_eligibleFields _ hoverrides hfields, run_map, hrun]
  · rw [htdisk, sharedOutput, put_put, sharedOutput, classSource]

/-- The first class goes to a directory that is made for it. -/
theorem run_processType_linkedOutput (hcalls : ∀ call, Reliable σ call)
    (hroot : (directory s).root = ⟨"o"⟩) (hdisk : disk s = linkedOutput) :
    ∃ events t, (Processor.processType (Directory.filer : Filer (StateM σ)) typeInP).run s =
        ((.ofWriting typeInP.qualifiedName typeInP.classArtifact.qualifiedName (.ok ()),
          events), t) ∧
      (directory t).root = (directory s).root ∧ disk t = sharedOutput (classSource typeInP) := by
  have hpath : (directory s).pathFor typeInP.classArtifact.qualifiedName =
      ⟨"o/p/AWithToString.java"⟩ := by
    rw [Directory.pathFor, hroot]
    decide +kernel
  have hparent : Path.parent? ⟨"o/p/AWithToString.java"⟩ = some ⟨"o/p"⟩ := by decide +kernel
  have hmake : linkedOutput.makeDirectory ⟨"o/p"⟩ =
      (.ok (), linkedOutput.put ["o", "p"] .directory) := by
    simp +decide [makeDirectory, locate, follow, start, steps, Text.segments, linkLimit,
      linkedOutput, entry?_put, entry?_empty]
  have hcreate : (linkedOutput.put ["o", "p"] .directory).create ⟨"o/p/AWithToString.java"⟩ =
      (.ok ["o", "p", "AWithToString.java"], sharedOutput []) := by
    simp +decide [create, locate, follow, start, steps, Text.segments, linkLimit,
      sharedOutput, linkedOutput, entry?_put, entry?_empty]
  exact run_processType_of_create hcalls hdisk (by decide +kernel) (by decide +kernel) hpath
    hparent (by decide +kernel) (by decide +kernel) (Or.inl (by rw [hmake]))
    (by rw [hmake, hcreate])

/-- The second class goes through the link to the file of the first. -/
theorem run_processType_sharedOutput (hcalls : ∀ call, Reliable σ call)
    (hroot : (directory s).root = ⟨"o"⟩) {contents : Text.Bytes}
    (hdisk : disk s = sharedOutput contents) :
    ∃ events t, (Processor.processType (Directory.filer : Filer (StateM σ)) typeInX).run s =
        ((.ofWriting typeInX.qualifiedName typeInX.classArtifact.qualifiedName (.ok ()),
          events), t) ∧
      (directory t).root = (directory s).root ∧ disk t = sharedOutput (classSource typeInX) := by
  have hpath : (directory s).pathFor typeInX.classArtifact.qualifiedName =
      ⟨"o/x/AWithToString.java"⟩ := by
    rw [Directory.pathFor, hroot]
    decide +kernel
  have hparent : Path.parent? ⟨"o/x/AWithToString.java"⟩ = some ⟨"o/x"⟩ := by decide +kernel
  have hmake : (sharedOutput contents).makeDirectory ⟨"o/x"⟩ =
      (.error (.system .alreadyExists), sharedOutput contents) := by
    simp +decide [makeDirectory, locate, follow, start, steps, Text.segments, linkLimit,
      sharedOutput, linkedOutput, entry?_put, entry?_empty]
  have hthere : (sharedOutput contents).isDirectory ⟨"o/x"⟩ = true := by
    simp +decide [isDirectory, locate, follow, start, steps, Text.segments, linkLimit,
      sharedOutput, linkedOutput, entry?_put, entry?_empty]
  have hcreate : (sharedOutput contents).create ⟨"o/x/AWithToString.java"⟩ =
      (.ok ["o", "p", "AWithToString.java"], sharedOutput []) := by
    simp +decide [create, locate, follow, start, steps, Text.segments, linkLimit,
      sharedOutput, linkedOutput, entry?_put, entry?_empty, put_put]
  exact run_processType_of_create hcalls hdisk (by decide +kernel) (by decide +kernel) hpath
    hparent (by decide +kernel) (by decide +kernel)
    (Or.inr (by rw [hmake]; exact ⟨rfl, hthere⟩)) (by rw [hmake, hcreate])

/-- Both classes are generated, and the file that they share has the source of the second. -/
theorem run_perform_linkedOutput (hcalls : ∀ call, Reliable σ call)
    (hdisk : disk s = linkedOutput) :
    ∃ events t, (perform shortOutput twoPackages : StateM σ Execution).run s =
        (executionOf shortOutput 2
          [.ofWriting typeInP.qualifiedName typeInP.classArtifact.qualifiedName (.ok ()),
            .ofWriting typeInX.qualifiedName typeInX.classArtifact.qualifiedName (.ok ())]
          events, t) ∧
      disk t = sharedOutput (classSource typeInX) := by
  have hvalid : twoPackages.validate = .ok () := by decide +kernel
  have hannotated : twoPackages.annotated shortOutput.marker = [typeInP, typeInX] := by
    decide +kernel
  obtain ⟨u, hudirectory, hudisk, hperform⟩ := run_perform hvalid shortOutput s
  obtain ⟨first, v, hfirst, hvroot, hvdisk⟩ := run_processType_linkedOutput hcalls
    (by rw [hudirectory]; rfl) (hudisk.trans hdisk)
  obtain ⟨second, t, hsecond, _, htdisk⟩ := run_processType_sharedOutput hcalls
    (by rw [hvroot, hudirectory]; rfl) hvdisk
  rw [hannotated] at hperform
  refine ⟨first ++ (second ++ []), t, hperform ?_, htdisk⟩
  simp only [Processor.processAll, run_bind, hfirst, hsecond, run_pure]

/-- It does not help that different classes have different files at first: a link may lead to a
directory that is made during the run, and then the source of one class is listed but lost. -/
theorem not_isTruthful_of_apart :
    ¬∀ (plan : Plan) (settings : Settings) (manifest : Manifest) (s : Trial plan),
      (∀ n, plan .remove n = none) → settings.validate = .ok () → manifest.validate = .ok () →
      (∀ path ∈ manifest.classPaths settings, ∀ other ∈ manifest.classPaths settings,
        path ≠ other → s.disk.Apart path other) →
      let run := (execute settings manifest false : StateM (Trial plan) Execution).run s
      IsTruthful settings.outputDir (manifest.annotated settings.marker) run.1
        run.2.directory.written run.2.disk := by
  intro htruthful
  have hpaths : twoPackages.classPaths shortOutput =
      [⟨"o/p/AWithToString.java"⟩, ⟨"o/x/AWithToString.java"⟩] := by decide +kernel
  have hfree : ∀ path ∈ twoPackages.classPaths shortOutput,
      linkedOutput.locate true path = .error (.system .notFound) := by
    rw [hpaths, List.forall_mem_cons, List.forall_mem_singleton]
    constructor <;>
      simp +decide [locate, follow, start, steps, Text.segments, linkLimit, linkedOutput,
        entry?_put, entry?_empty]
  have htruth := htruthful (fun _ _ => none) shortOutput twoPackages
    { directory := { root := ⟨"o"⟩ }, disk := linkedOutput } (fun _ => rfl) (by decide +kernel)
    (by decide +kernel) fun path hmem other _ _ place contents hlocate => by
      rw [hfree path hmem] at hlocate
      cases hlocate
  obtain ⟨events, t, hrun, hdisk⟩ := run_perform_linkedOutput (σ := Trial fun _ _ => none)
    (s := { directory := { root := ⟨"o"⟩ }, disk := linkedOutput }) (fun _ _ => rfl) rfl
  rw [execute, if_neg Bool.false_ne_true, hrun] at htruth
  have hsource := htruth.sources typeInP (by decide +kernel) _
    (by rw [outcomes_executionOf]; exact List.mem_cons_self) rfl rfl
  have hread : (sharedOutput (classSource typeInX)).read ⟨"o/p/AWithToString.java"⟩ =
      .ok (classSource typeInX) := by
    simp +decide [Disk.read, locate, follow, start, steps, Text.segments, linkLimit,
      sharedOutput, linkedOutput, entry?_put]
  have hpath : classPath shortOutput.outputDir typeInP.qualifiedName =
      ⟨"o/p/AWithToString.java"⟩ := by decide +kernel
  have hsame : t.disk = sharedOutput (classSource typeInX) := hdisk
  rw [hsame, hpath, hread, Except.ok.injEq] at hsource
  exact absurd hsource (by decide +kernel)

end Links

end Command

end ToStringGen
