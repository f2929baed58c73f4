import Mathlib.Data.List.Nodup
import ToStringGen.Command.Generate
import ToStringGen.Proofs.Processing.Account
import ToStringGen.Proofs.Processing.Diagram

/-!
# What is told about a run

Whatever goes wrong on the way, the lines that a run prints, the outcomes that it
reports, the paths that it lists and the files that it leaves tell the same story.
-/

namespace ToStringGen

open Log (Event)
open Java

/-- What is printed, reported and listed about some declarations is true of the files left. -/
structure IsTruthful (root : Path) (declarations : List TypeDeclaration)
    (execution : Command.Execution) (written : List Path) (disk : Disk) : Prop where
  /-- The outcomes are those of the declarations, in order. -/
  typeNames : execution.report.outcomes.map Outcome.typeName =
    declarations.map TypeDeclaration.qualifiedName
  /-- A generated class is named after its type, and no other class is named. -/
  artifacts : ∀ outcome ∈ execution.report.outcomes, outcome.artifact =
    if outcome.stage = .generated then some (Subclass.nameOf outcome.typeName) else none
  /-- The paths of the generated classes are listed, in order. -/
  written_eq : written =
    (execution.report.outcomes.filter fun outcome => outcome.stage == .generated).map fun outcome =>
      classPath root outcome.typeName
  /-- Every listed path is shown in a line of its own, in order, and the last line has the numbers
  of classes generated, types skipped and failures, which are all the declarations. -/
  output : ∃ generated skipped failed : Nat,
    generated = execution.report.outcomes.countP (fun outcome => outcome.stage == .generated) ∧
    skipped = execution.report.outcomes.countP (fun outcome =>
      outcome.stage == .overridden || outcome.stage == .noEligibleFields) ∧
    failed = execution.report.outcomes.countP (fun outcome => outcome.stage == .ioFailure) ∧
    generated + skipped + failed = declarations.length ∧
    execution.output = String.join (written.map fun path => "✓ " ++ path.text ++ "\n") ++
      ("Generated: " ++ toString generated ++ ", skipped: " ++ toString skipped ++
        ", failed: " ++ toString failed ++ "\n")
  /-- The file of a generated class holds its source. -/
  sources : ∀ declaration ∈ declarations, ∀ outcome ∈ execution.report.outcomes,
    outcome.typeName = declaration.qualifiedName → outcome.stage = .generated →
      disk.read (classPath root declaration.qualifiedName) = .ok (classSource declaration)
  /-- Where generating failed, nothing is listed, and no file is left that had been created. -/
  failures : ∀ outcome ∈ execution.report.outcomes, outcome.stage = .ioFailure →
    (∀ listed ∈ written, listed.components ≠ (classPath root outcome.typeName).components) ∧
      (Event.filing (.created (classPath root outcome.typeName)) ∈ execution.events →
        disk.HoldsNone (classPath root outcome.typeName))

namespace RunReport

/-- The lines about sources show the paths listed. -/
theorem map_writtenLine_artifacts (report : RunReport) (root : Path) :
    report.artifacts.map (Command.writtenLine root) =
      (report.outcomes.filterMap (·.listed? root)).map fun path => "✓ " ++ path.text ++ "\n" := by
  rw [artifacts, List.map_filterMap, List.map_filterMap]
  refine List.filterMap_congr fun outcome _ => ?_
  cases hartifact : outcome.artifact with
  | none => simp [Outcome.listed?, hartifact]
  | some artifact => simp [Outcome.listed?, hartifact, Command.writtenLine]

/-- The last line has the numbers of outcomes at three kinds of stages. -/
theorem summaryLine_eq (report : RunReport) :
    Command.summaryLine report = "Generated: " ++
      toString (report.outcomes.countP fun outcome => outcome.stage == .generated) ++
      ", skipped: " ++ toString (report.outcomes.countP fun outcome =>
        outcome.stage == .overridden || outcome.stage == .noEligibleFields) ++
      ", failed: " ++
      toString (report.outcomes.countP fun outcome => outcome.stage == .ioFailure) ++ "\n" := by
  have hskipped : report.skipped = report.outcomes.countP (fun outcome =>
      outcome.stage == .overridden || outcome.stage == .noEligibleFields) := by
    simp only [skipped, count, Stage.isSkipped_eq]
  have hsummary : Command.summaryLine report = "Generated: " ++ toString report.generated ++
      ", skipped: " ++ toString report.skipped ++ ", failed: " ++ toString report.failed ++
      "\n" := rfl
  rw [hsummary, hskipped]
  rfl

end RunReport

namespace Accounted

variable {root : Path} {disk : Disk} {events : List Event} {declaration : TypeDeclaration}
  {outcome : Outcome}

/-- An account of a declaration names its type. -/
theorem typeName_eq (h : Accounted root disk events declaration outcome) :
    outcome.typeName = declaration.qualifiedName := by
  cases h <;> rfl

/-- Accounts are given at final stages. -/
theorem isSettled (h : Accounted root disk events declaration outcome) : outcome.IsSettled := by
  cases h <;> exact ⟨rfl, rfl⟩

/-- A class is named if and only if it was generated. -/
theorem artifact_eq (h : Accounted root disk events declaration outcome) :
    outcome.artifact =
      if outcome.stage = .generated then some (Subclass.nameOf outcome.typeName) else none :=
  h.isSettled.artifact_eq

/-- The file of a generated class holds its source. -/
theorem holds (h : Accounted root disk events declaration outcome)
    (hstage : outcome.stage = .generated) :
    disk.Holds (classPath root declaration.qualifiedName) (classSource declaration) := by
  cases h with
  | generated hholds => exact hholds
  | _ => cases hstage

/-- A file that was created but not written is gone. -/
theorem holdsNone (h : Accounted root disk events declaration outcome)
    (hstage : outcome.stage = .ioFailure)
    (hcreated : Event.filing (.created (classPath root declaration.qualifiedName)) ∈ events) :
    disk.HoldsNone (classPath root declaration.qualifiedName) := by
  cases h with
  | failed failure hnone => exact hnone hcreated
  | _ => cases hstage

variable {declarations : List TypeDeclaration} {outcomes : List Outcome}

/-- Every outcome gives account of one of the declarations. -/
theorem exists_of_mem (h : List.Forall₂ (Accounted root disk events) declarations outcomes)
    (hmem : outcome ∈ outcomes) :
    ∃ declaration ∈ declarations, Accounted root disk events declaration outcome := by
  induction h with
  | nil => cases hmem
  | cons hfirst _ ih =>
    rcases List.mem_cons.mp hmem with rfl | hmem
    · exact ⟨_, List.mem_cons_self .., hfirst⟩
    · obtain ⟨declaration, hdeclaration, haccount⟩ := ih hmem
      exact ⟨declaration, List.mem_cons_of_mem _ hdeclaration, haccount⟩

/-- The outcomes name the types of the declarations. -/
theorem map_typeName_eq (h : List.Forall₂ (Accounted root disk events) declarations outcomes) :
    outcomes.map Outcome.typeName = declarations.map TypeDeclaration.qualifiedName := by
  induction h with
  | nil => rfl
  | cons hfirst _ ih => rw [List.map_cons, List.map_cons, hfirst.typeName_eq, ih]

/-- Every declaration counts once: as generated, as skipped or as failed. -/
theorem countP_add_eq_length
    (h : List.Forall₂ (Accounted root disk events) declarations outcomes) :
    outcomes.countP (fun outcome => outcome.stage == .generated) +
        outcomes.countP (fun outcome =>
          outcome.stage == .overridden || outcome.stage == .noEligibleFields) +
        outcomes.countP (fun outcome => outcome.stage == .ioFailure) = declarations.length := by
  have hsettled : ∀ outcome ∈ outcomes, outcome.IsSettled := by
    intro outcome hmem
    obtain ⟨_, _, haccount⟩ := exists_of_mem h hmem
    exact haccount.isSettled
  have hsum := (accountFor_of_isSettled hsettled).sum_eq
  simp only [Stage.isSkipped_eq] at hsum
  rw [hsum, h.length_eq]

/-- The paths listed are those of the generated classes. -/
theorem filterMap_listed?_eq
    (h : List.Forall₂ (Accounted root disk events) declarations outcomes) :
    outcomes.filterMap (·.listed? root) =
      (outcomes.filter fun outcome => outcome.stage == .generated).map fun outcome =>
        classPath root outcome.typeName := by
  induction h with
  | nil => rfl
  | cons hfirst _ ih =>
    rw [List.filterMap_cons, List.filter_cons, ih]
    cases hfirst <;> rfl

/-- Where generating failed, no path with the components of that of the class is listed. -/
theorem components_ne_of_mem_listed
    (h : List.Forall₂ (Accounted root disk events) declarations outcomes)
    (hnodup : (declarations.map TypeDeclaration.qualifiedName).Nodup)
    (hnames : ∀ declaration ∈ declarations,
      isQualifiedIdentifier declaration.qualifiedName = true)
    (hmem : outcome ∈ outcomes) (hstage : outcome.stage = .ioFailure) {listed : Path}
    (hlisted : listed ∈ outcomes.filterMap (·.listed? root)) :
    listed.components ≠ (classPath root outcome.typeName).components := by
  intro heq
  rw [filterMap_listed?_eq h] at hlisted
  obtain ⟨other, hother, rfl⟩ := List.mem_map.mp hlisted
  obtain ⟨hother, hgenerated⟩ := List.mem_filter.mp hother
  obtain ⟨first, hfirst, haccount⟩ := exists_of_mem h hmem
  obtain ⟨second, hsecond, hotherAccount⟩ := exists_of_mem h hother
  rw [haccount.typeName_eq, hotherAccount.typeName_eq] at heq
  have hname := eq_of_components_classPath (hnames _ hsecond) (hnames _ hfirst) heq
  -- The outcome of the same type is the same, as every type has one outcome only.
  have hsame : other = outcome := by
    refine List.inj_on_of_nodup_map (f := Outcome.typeName) ?_ hother hmem ?_
    · rw [map_typeName_eq h]
      exact hnodup
    · rw [hotherAccount.typeName_eq, haccount.typeName_eq, hname]
  rw [hsame, hstage] at hgenerated
  exact absurd hgenerated (by decide)

/-- Accounts of all declarations of different types, together with the paths listed and the lines
printed for them, tell the truth. -/
theorem isTruthful (h : List.Forall₂ (Accounted root disk events) declarations outcomes)
    (hnodup : (declarations.map TypeDeclaration.qualifiedName).Nodup)
    (hnames : ∀ declaration ∈ declarations,
      isQualifiedIdentifier declaration.qualifiedName = true)
    {execution : Command.Execution} (houtcomes : execution.report.outcomes = outcomes)
    (hcreated : ∀ path, Event.filing (.created path) ∈ execution.events →
      Event.filing (.created path) ∈ events)
    (houtput : execution.output =
      String.join (execution.report.artifacts.map (Command.writtenLine root)) ++
        Command.summaryLine execution.report) :
    IsTruthful root declarations execution (outcomes.filterMap (·.listed? root)) disk := by
  refine ⟨?_, ?_, ?_, ?_, ?_, ?_⟩
  · rw [houtcomes, map_typeName_eq h]
  · intro outcome hmem
    obtain ⟨declaration, _, haccount⟩ := exists_of_mem h (houtcomes ▸ hmem)
    exact haccount.artifact_eq
  · rw [houtcomes, filterMap_listed?_eq h]
  · refine ⟨_, _, _, rfl, rfl, rfl, ?_, ?_⟩
    · rw [houtcomes, countP_add_eq_length h]
    · rw [houtput, execution.report.map_writtenLine_artifacts, execution.report.summaryLine_eq,
        houtcomes]
  · intro declaration hmem outcome houtcome hname hstage
    obtain ⟨other, hother, haccount⟩ := exists_of_mem h (houtcomes ▸ houtcome)
    have heq : other = declaration :=
      List.inj_on_of_nodup_map hnodup hother hmem (haccount.typeName_eq.symm.trans hname)
    exact (heq ▸ haccount.holds hstage).read_eq
  · intro outcome houtcome hstage
    obtain ⟨declaration, hmem, haccount⟩ := exists_of_mem h (houtcomes ▸ houtcome)
    refine ⟨fun listed hlisted => ?_, fun hevent => ?_⟩
    · exact components_ne_of_mem_listed h hnodup hnames (houtcomes ▸ houtcome) hstage hlisted
    · rw [haccount.typeName_eq] at hevent ⊢
      exact haccount.holdsNone hstage (hcreated _ hevent)

end Accounted

end ToStringGen
