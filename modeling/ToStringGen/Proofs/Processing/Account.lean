import Mathlib.Data.List.Forall2
import ToStringGen.Proofs.Filer.Evolution
import ToStringGen.Proofs.Filer.Filing
import ToStringGen.Proofs.Processing.Run

/-!
# Accounts of files

An outcome gives account of the file of a class: it is there with the whole source,
or no file was left where one had been created. What comes after leaves that file
alone, so that in the end every outcome of a run is right about its file.
-/

namespace ToStringGen

open Log (Event FilingEvent)
open Disk Java OnDisk
open Text (Bytes)

/-- The path of the class that is generated for a type. -/
def classPath (root : Path) (typeName : String) : Path :=
  root.join (QualifiedName.sourcePath (Subclass.nameOf typeName))

section ClassPath

variable {root : Path} {typeName other : String}

/-- The way to a class ends with a name. -/
theorem steps_classPath (root : Path) (h : isQualifiedIdentifier typeName = true) :
    ∃ front name, steps (classPath root typeName).text = front ++ [name] ∧
      Path.IsName name := by
  have hname := Subclass.isQualifiedIdentifier_nameOf h
  have hplain : ∀ part ∈ QualifiedName.sourceNames (Subclass.nameOf typeName), Path.IsName part :=
    fun part hmem => QualifiedName.isName_of_mem_sourceNames hname hmem
  rw [classPath, QualifiedName.sourcePath_eq hname,
    steps_join root hplain (QualifiedName.sourceNames_ne_nil _)]
  rw [QualifiedName.sourceNames] at hplain ⊢
  exact ⟨_, _, (List.append_assoc ..).symm, hplain _ (by simp)⟩

/-- The classes of different types have different components. -/
theorem eq_of_components_classPath (h : isQualifiedIdentifier typeName = true)
    (hother : isQualifiedIdentifier other = true)
    (heq : (classPath root typeName).components = (classPath root other).components) :
    typeName = other :=
  Subclass.nameOf_injective (QualifiedName.eq_of_components_join_sourcePath
    (Subclass.isQualifiedIdentifier_nameOf h) (Subclass.isQualifiedIdentifier_nameOf hother) heq)

end ClassPath

/-- The path listed for an outcome, when a class was written. -/
def Outcome.listed? (root : Path) (outcome : Outcome) : Option Path :=
  outcome.artifact.map fun artifact => root.join (QualifiedName.sourcePath artifact)

/-- The source of the class that is generated for a declaration, as its file holds it. -/
def classSource (declaration : TypeDeclaration) : Bytes :=
  Text.Utf8.encode declaration.classArtifact.body

/-- What the outcome of a declaration says of the file of its class: there is the whole source, or
there is no file although one was created, or nothing is said. -/
inductive Accounted (root : Path) (disk : Disk) (events : List Event)
    (declaration : TypeDeclaration) : Outcome → Prop
  | overridden (h : declaration.overridesToString = true) :
      Accounted root disk events declaration (.overridden declaration.qualifiedName)
  | withoutFields (h : declaration.eligibleFields = []) :
      Accounted root disk events declaration (.withoutFields declaration.qualifiedName)
  | generated
      (hholds : disk.Holds (classPath root declaration.qualifiedName) (classSource declaration)) :
      Accounted root disk events declaration
        (.ofWriting declaration.qualifiedName (Subclass.nameOf declaration.qualifiedName) (.ok ()))
  | failed (failure : GenerationError)
      (hnone : Event.filing (.created (classPath root declaration.qualifiedName)) ∈ events →
        disk.HoldsNone (classPath root declaration.qualifiedName)) :
      Accounted root disk events declaration
        (.ofWriting declaration.qualifiedName (Subclass.nameOf declaration.qualifiedName)
          (.error failure))

namespace Accounted

variable {root : Path} {disk : Disk} {events : List Event} {declaration : TypeDeclaration}
  {outcome : Outcome}

/-- Only the event that the file was created matters. -/
theorem of_events (h : Accounted root disk events declaration outcome) {other : List Event}
    (hsame : Event.filing (.created (classPath root declaration.qualifiedName)) ∈ other →
      Event.filing (.created (classPath root declaration.qualifiedName)) ∈ events) :
    Accounted root disk other declaration outcome := by
  cases h with
  | overridden h => exact .overridden h
  | withoutFields h => exact .withoutFields h
  | generated hholds => exact .generated hholds
  | failed failure hnone => exact .failed failure fun hmem => hnone (hsame hmem)

/-- Only the path of the class is ever listed. -/
theorem eq_of_mem_listed? (h : Accounted root disk events declaration outcome) {path : Path}
    (hmem : path ∈ (outcome.listed? root).toList) :
    path = classPath root declaration.qualifiedName := by
  cases h with
  | generated => exact List.mem_singleton.mp hmem
  | _ => simp [Outcome.listed?, Outcome.ofWriting, Outcome.overridden, Outcome.withoutFields]
      at hmem

/-- Events before those of some declarations do not matter, if no file of theirs was created
then. -/
theorem forall₂_append {declarations : List TypeDeclaration} {outcomes : List Outcome}
    {told : List Event} (h : List.Forall₂ (Accounted root disk events) declarations outcomes)
    (hapart : ∀ declaration ∈ declarations,
      Event.filing (.created (classPath root declaration.qualifiedName)) ∉ told) :
    List.Forall₂ (Accounted root disk (told ++ events)) declarations outcomes := by
  refine ((List.forall₂_and_left _ _).mpr ⟨hapart, h⟩).imp fun declaration _ h => ?_
  exact h.2.of_events fun hmem => (List.mem_append.mp hmem).resolve_left h.1

/-- An account stays right while files are written at paths that stay apart from its own. -/
theorem exists_preserved (h : Accounted root disk events declaration outcome) :
    ∃ Q : Disk → Prop, Q disk ∧
      (∀ later, Q later → Accounted root later events declaration outcome) ∧
      ∀ {path : Path} {P : Disk → Prop} {front : List String} {name : String},
        FilingPreserves path P → steps path.text = front ++ [name] → Path.IsName name →
        (∀ disk, P disk → disk.Apart path (classPath root declaration.qualifiedName)) →
        FilingPreserves path fun disk => P disk ∧ Q disk := by
  cases h with
  | overridden h =>
    refine ⟨fun _ => True, trivial, fun _ _ => .overridden h, fun hP _ _ _ => ?_⟩
    simpa only [and_true] using hP
  | withoutFields h =>
    refine ⟨fun _ => True, trivial, fun _ _ => .withoutFields h, fun hP _ _ _ => ?_⟩
    simpa only [and_true] using hP
  | generated hholds =>
    refine ⟨fun later => later.Holds (classPath root declaration.qualifiedName)
      (classSource declaration), hholds, fun _ hlater => .generated hlater, ?_⟩
    intro path P front name hP hsteps hname hapart
    exact hP.and_holds hsteps hname hapart (classSource declaration)
  | failed failure hnone =>
    by_cases hcreated : Event.filing
        (.created (classPath root declaration.qualifiedName)) ∈ events
    · refine ⟨fun later => later.HoldsNone (classPath root declaration.qualifiedName),
        hnone hcreated, fun _ hlater => .failed failure fun _ => hlater, ?_⟩
      intro path P front name hP hsteps hname hapart
      exact hP.and_holdsNone hsteps hname hapart
    · refine ⟨fun _ => True, trivial,
        fun _ _ => .failed failure fun hmem => absurd hmem hcreated, fun hP _ _ _ => ?_⟩
      simpa only [and_true] using hP

end Accounted

namespace Directory

variable {path : Path} {written : List Path}

/-- A path that is not listed is listed last. -/
theorem record_of_fresh (h : ∀ listed ∈ written, listed.components ≠ path.components) :
    record path written = written ++ [path] := by
  unfold record
  rw [if_neg]
  intro hany
  obtain ⟨listed, hmem, heq⟩ := List.any_eq_true.mp hany
  exact h listed hmem (beq_iff_eq.mp heq)

/-- Taking off the list what was listed last leaves the list before it. -/
theorem forget_record_of_fresh (h : ∀ listed ∈ written, listed.components ≠ path.components) :
    forget path (record path written) = written := by
  rw [record_of_fresh h, forget, List.filter_append]
  have hothers : written.filter (fun other => other.components != path.components) = written :=
    List.filter_eq_self.mpr fun listed hmem => bne_iff_ne.mpr (h listed hmem)
  rw [hothers]
  simp

end Directory

/-- A source is never empty. -/
theorem render_ne_empty (typeName : String) (fields : List String) :
    Subclass.render typeName fields ≠ "" := by
  intro h
  have hchars := congrArg String.toList h
  simp [Subclass.render] at hchars

namespace Processor

variable {σ : Type} [Volume Location (StateM σ)] [MonadStateOf (Directory Location) (StateM σ)]
  [OnDisk σ] {s t : σ} {P : Disk → Prop} {root : Path}

/-- Processing a declaration gives an account of the file of its class, and lists the file if and
only if the class was written. -/
theorem processType_spec {declaration : TypeDeclaration} {outcome : Outcome}
    {events : List Event} (hname : isQualifiedIdentifier declaration.qualifiedName = true)
    (hremove : Reliable σ .remove) (hroot : (directory s).root = root)
    (hfresh : ∀ listed ∈ (directory s).written,
      listed.components ≠ (classPath root declaration.qualifiedName).components)
    (hP : FilingPreserves (classPath root declaration.qualifiedName) P) (hs : P (disk s))
    (h : (processType (Directory.filer : Filer (StateM σ)) declaration).run s =
      ((outcome, events), t)) :
    P (disk t) ∧ (directory t).root = root ∧
      (directory t).written = (directory s).written ++ (outcome.listed? root).toList ∧
      Accounted root (disk t) events declaration outcome ∧
      ∀ path, Event.filing (.created path) ∈ events →
        path = classPath root declaration.qualifiedName := by
  by_cases hoverrides : declaration.overridesToString = true
  · rw [processType_of_overrides _ hoverrides, run_pure] at h
    cases h
    exact ⟨hs, hroot, by simp [Outcome.listed?, Outcome.overridden], .overridden hoverrides,
      by simp⟩
  have hoverrides := Bool.eq_false_iff.mpr hoverrides
  by_cases hfields : declaration.eligibleFields = []
  · rw [processType_of_request?_eq_none _ hoverrides
      (TypeDeclaration.request?_eq_none_iff.mpr hfields), run_pure] at h
    cases h
    exact ⟨hs, hroot, by simp [Outcome.listed?, Outcome.withoutFields], .withoutFields hfields,
      by simp⟩
  · rw [processType_of_eligibleFields _ hoverrides hfields, run_map] at h
    rcases hwrite :
        ((Directory.filer : Filer (StateM σ)).writeArtifact declaration.classArtifact).run s
      with ⟨⟨result, filed⟩, u⟩
    rw [hwrite] at h
    have hlisted : (Outcome.ofWriting declaration.qualifiedName
        declaration.classArtifact.qualifiedName (.ok ())).listed? root =
        some (classPath root declaration.qualifiedName) := rfl
    have hpath : (directory s).pathFor declaration.classArtifact.qualifiedName =
        classPath root declaration.qualifiedName := by
      rw [Directory.pathFor, hroot]
      rfl
    obtain ⟨front, name, hsteps, hisName⟩ := steps_classPath root hname
    obtain ⟨hu, hfiled⟩ := Directory.writeArtifact_spec hpath hsteps hisName
      (render_ne_empty _ _) hP hs hwrite
    cases h
    refine ⟨hu, ?_⟩
    cases hfiled with
    | notCreated fault hdirectory =>
      refine ⟨hdirectory ▸ hroot, ?_, .failed _ fun hmem => ?_, fun path hmem => ?_⟩
      · simp [hdirectory, Outcome.listed?, Outcome.ofWriting]
      · simp [writingEvents] at hmem
      · simp [writingEvents] at hmem
    | written place hdirectory hlocate =>
      refine ⟨hdirectory ▸ hroot, ?_, .generated ⟨place, hlocate⟩, fun path hmem => ?_⟩
      · rw [hlisted, hdirectory, Directory.record_of_fresh hfresh, Option.toList_some]
      · simpa [writingEvents] using hmem
    | discarded fault removals hdirectory hremoved =>
      obtain ⟨rfl, parent, free, hfree⟩ := hremoved hremove
      refine ⟨hdirectory ▸ hroot, ?_, .failed _ fun _ => .vacant parent free hfree,
        fun path hmem => ?_⟩
      · simp [hdirectory, Outcome.listed?, Outcome.ofWriting,
          Directory.forget_record_of_fresh hfresh]
      · simpa [writingEvents] using hmem

/-- Processing declarations one after the other gives an account of every one of them that is
right in the end, and lists the classes written in the order of their declarations. -/
theorem processAll_spec {declarations : List TypeDeclaration} {outcomes : List Outcome}
    {events : List Event}
    (hnames : ∀ declaration ∈ declarations,
      isQualifiedIdentifier declaration.qualifiedName = true)
    (hnodup : (declarations.map TypeDeclaration.qualifiedName).Nodup)
    (hremove : Reliable σ .remove) (hroot : (directory s).root = root)
    (hfresh : ∀ declaration ∈ declarations, ∀ listed ∈ (directory s).written,
      listed.components ≠ (classPath root declaration.qualifiedName).components)
    (hP : ∀ declaration ∈ declarations,
      FilingPreserves (classPath root declaration.qualifiedName) P)
    (hapart : ∀ disk, P disk → ∀ declaration ∈ declarations, ∀ other ∈ declarations,
      declaration.qualifiedName ≠ other.qualifiedName →
        disk.Apart (classPath root declaration.qualifiedName) (classPath root other.qualifiedName))
    (hs : P (disk s))
    (h : (processAll (Directory.filer : Filer (StateM σ)) declarations).run s =
      ((outcomes, events), t)) :
    P (disk t) ∧
      (directory t).written = (directory s).written ++ outcomes.filterMap (·.listed? root) ∧
      List.Forall₂ (Accounted root (disk t) events) declarations outcomes ∧
      ∀ path, Event.filing (.created path) ∈ events →
        ∃ declaration ∈ declarations, path = classPath root declaration.qualifiedName := by
  induction declarations generalizing s P outcomes events with
  | nil =>
    rw [processAll, run_pure] at h
    cases h
    exact ⟨hs, by simp, .nil, by simp⟩
  | cons declaration rest ih =>
    obtain ⟨hname, hnames⟩ := List.forall_mem_cons.mp hnames
    obtain ⟨hfreshHere, hfresh⟩ := List.forall_mem_cons.mp hfresh
    obtain ⟨hPHere, hP⟩ := List.forall_mem_cons.mp hP
    rw [List.map_cons, List.nodup_cons] at hnodup
    obtain ⟨hnew, hnodup⟩ := hnodup
    have hdiffers : ∀ other ∈ rest, other.qualifiedName ≠ declaration.qualifiedName :=
      fun other hmem heq => hnew (heq ▸ List.mem_map_of_mem hmem)
    have hpaths : ∀ other ∈ rest, (classPath root declaration.qualifiedName).components ≠
        (classPath root other.qualifiedName).components := fun other hmem heq =>
      hdiffers other hmem (eq_of_components_classPath hname (hnames other hmem) heq).symm
    -- The declaration is processed, and then the rest of them.
    rw [processAll, run_bind] at h
    rcases hfirst : (processType (Directory.filer : Filer (StateM σ)) declaration).run s with
      ⟨⟨outcome, told⟩, u⟩
    obtain ⟨hu, huroot, huwritten, haccount, hcreated⟩ :=
      processType_spec hname hremove hroot hfreshHere hPHere hs hfirst
    rw [hfirst] at h
    simp only [run_bind, run_pure] at h
    rcases hrest : (processAll (Directory.filer : Filer (StateM σ)) rest).run u with
      ⟨⟨others, more⟩, v⟩
    rw [hrest] at h
    cases h
    obtain ⟨Q, hQ, hlasts, hpreserves⟩ := haccount.exists_preserved
    have hboth : ∀ other ∈ rest, FilingPreserves (classPath root other.qualifiedName)
        fun disk => P disk ∧ Q disk := by
      intro other hmem
      obtain ⟨front, name, hsteps, hisName⟩ := steps_classPath root (hnames other hmem)
      exact hpreserves (hP other hmem) hsteps hisName fun disk hdisk =>
        hapart disk hdisk other (List.mem_cons_of_mem _ hmem) declaration (List.mem_cons_self ..)
          (hdiffers other hmem)
    have hfreshAfter : ∀ other ∈ rest, ∀ listed ∈ (directory u).written,
        listed.components ≠ (classPath root other.qualifiedName).components := by
      intro other hmem listed hlisted
      rw [huwritten] at hlisted
      rcases List.mem_append.mp hlisted with hlisted | hlisted
      · exact hfresh other hmem listed hlisted
      · rw [haccount.eq_of_mem_listed? hlisted]
        exact hpaths other hmem
    obtain ⟨⟨hv, hQv⟩, hvwritten, haccounts, hcreatedRest⟩ := ih hnames hnodup huroot
      hfreshAfter hboth (fun disk hdisk one hone other hother => hapart disk hdisk.1 one
        (List.mem_cons_of_mem _ hone) other (List.mem_cons_of_mem _ hother)) ⟨hu, hQ⟩ hrest
    refine ⟨hv, ?_, .cons ((hlasts _ hQv).of_events fun hmem => ?_) ?_, fun path hmem => ?_⟩
    · rw [hvwritten, huwritten]
      cases hlisted : outcome.listed? root with
      | none => rw [List.filterMap_cons_none hlisted, Option.toList_none, List.append_nil]
      | some path =>
        rw [List.filterMap_cons_some hlisted, Option.toList_some, List.append_assoc,
          List.singleton_append]
    · refine (List.mem_append.mp hmem).resolve_right fun hlater => ?_
      obtain ⟨other, hother, heq⟩ := hcreatedRest _ hlater
      exact hpaths other hother (congrArg Path.components heq)
    · exact Accounted.forall₂_append haccounts fun other hother hmem =>
        hpaths other hother (congrArg Path.components (hcreated _ hmem)).symm
    · rcases List.mem_append.mp hmem with hmem | hmem
      · exact ⟨declaration, List.mem_cons_self .., hcreated path hmem⟩
      · obtain ⟨other, hother, heq⟩ := hcreatedRest path hmem
        exact ⟨other, List.mem_cons_of_mem _ hother, heq⟩

end Processor

end ToStringGen
