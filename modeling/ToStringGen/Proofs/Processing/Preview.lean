import Mathlib.Data.List.Basic
import Mathlib.Data.List.Forall2
import ToStringGen.Manifest.Preview
import ToStringGen.Proofs.Filer.Memory
import ToStringGen.Proofs.Java.Name
import ToStringGen.Proofs.Manifest
import ToStringGen.Proofs.Processing.Run
import ToStringGen.Proofs.Text.Utf8

/-!
# Previews come true

The preview decides about each declaration by itself, while a run delivers, selects
and files through a chain of steps. Nothing can fail in memory, so the run leaves
exactly what the decisions announce: the outcomes in order, and one file for each
class to be generated.
-/

namespace ToStringGen

open Log (Event)
open Text (Bytes)

namespace Decision

/-- The outcome that a decision announces. -/
def outcome? (typeName : String) : Decision → Option Outcome
  | notAnnotated => none
  | alreadyOverridden => some (.overridden typeName)
  | noEligibleFields => some (.withoutFields typeName)
  | generate artifact _ => some (.ofWriting typeName artifact (.ok ()))

/-- The name of the class that a decision announces. -/
def artifact? : Decision → Option String
  | generate artifact _ => some artifact
  | _ => none

/-- The file that a decision announces, by name and contents. -/
def file? (typeName : String) : Decision → Option (String × Bytes)
  | generate artifact fields =>
      some (artifact, Text.Utf8.encode (Java.Subclass.render typeName fields))
  | _ => none

/-- An announced file has the name of the announced class. -/
theorem map_fst_file? (typeName : String) (decision : Decision) :
    (decision.file? typeName).map Prod.fst = decision.artifact? := by
  cases decision <;> rfl

end Decision

namespace TypeDeclaration

/-- The class announced for a declaration is the subclass named after it, and shows the eligible
fields. -/
theorem eq_of_decision_eq_generate {declaration : TypeDeclaration} {marker artifact : String}
    {fields : List String} (h : declaration.decision marker = .generate artifact fields) :
    artifact = Java.Subclass.nameOf declaration.qualifiedName ∧
      fields = declaration.eligibleFields.map FieldDeclaration.name := by
  unfold decision at h
  split at h
  · simp at h
  · split at h
    · simp at h
    · cases hrequest : declaration.request? with
      | none => simp [hrequest] at h
      | some request =>
        simp only [hrequest, Decision.generate.injEq] at h
        obtain ⟨hname, hfields⟩ := eq_of_request?_eq_some hrequest
        rw [← h.1, ← h.2, GenerationRequest.artifactName, GenerationRequest.fieldNames, hname,
          hfields]
        exact ⟨rfl, rfl⟩

/-- The outcome announced for a declaration. -/
def announced? (marker : String) (declaration : TypeDeclaration) : Option Outcome :=
  (declaration.decision marker).outcome? declaration.qualifiedName

/-- An announced outcome is one of the type. -/
theorem typeName_of_announced? {declaration : TypeDeclaration} {marker : String}
    {outcome : Outcome} (h : declaration.announced? marker = some outcome) :
    outcome.typeName = declaration.qualifiedName := by
  rw [announced?] at h
  cases hdecision : declaration.decision marker with
  | notAnnotated => simp [hdecision, Decision.outcome?] at h
  | _ =>
    simp only [hdecision, Decision.outcome?, Option.some.injEq] at h
    rw [← h]
    rfl

/-- Nothing is announced for a declaration without the marker, and for no other. -/
theorem decision_eq_notAnnotated_iff {declaration : TypeDeclaration} {marker : String} :
    declaration.decision marker = .notAnnotated ↔
      declaration.isAnnotatedWith marker = false := by
  unfold decision
  cases declaration.isAnnotatedWith marker with
  | false => simp
  | true =>
    simp only [Bool.not_true, Bool.false_eq_true, if_false]
    split
    · simp
    · split <;> simp

end TypeDeclaration

namespace Processor

/-- In memory an annotated declaration comes to what was decided about it, and its file, if one
was announced, is added to the others. -/
theorem run_processType {declaration : TypeDeclaration} {marker : String}
    (h : declaration.isAnnotatedWith marker = true) (files : Std.ExtTreeMap String Bytes) :
    ∃ outcome events,
      (processType Memory.filer declaration).run { files } =
        ((outcome, events),
          { files := files.insertMany
              ((declaration.decision marker).file? declaration.qualifiedName).toList }) ∧
      declaration.announced? marker = some outcome := by
  unfold TypeDeclaration.announced?
  by_cases hoverrides : declaration.overridesToString = true
  · have hdecision : declaration.decision marker = .alreadyOverridden := by
      simp [TypeDeclaration.decision, h, hoverrides]
    rw [processType_of_overrides _ hoverrides, hdecision]
    exact ⟨_, _, rfl, rfl⟩
  · have hoverrides : declaration.overridesToString = false := by simpa using hoverrides
    cases hrequest : declaration.request? with
    | none =>
      have hdecision : declaration.decision marker = .noEligibleFields := by
        simp [TypeDeclaration.decision, h, hoverrides, hrequest]
      rw [processType_of_request?_eq_none _ hoverrides hrequest, hdecision]
      exact ⟨_, _, rfl, rfl⟩
    | some request =>
      have hname := (TypeDeclaration.eq_of_request?_eq_some hrequest).1
      have hdecision : declaration.decision marker =
          .generate request.artifactName request.fieldNames := by
        simp [TypeDeclaration.decision, h, hoverrides, hrequest]
      rw [processType_of_request?_eq_some _ hoverrides hrequest, hdecision, run_map,
        Memory.run_writeArtifact]
      refine ⟨_, writingEvents declaration.qualifiedName (.ok ()) [], ?_, rfl⟩
      simp [Decision.file?, GenerationRequest.synthesize, hname]

/-- In memory annotated declarations come to what was decided about them, one after the
other, and exactly the announced files are added. -/
theorem run_processAll {declarations : List TypeDeclaration} {marker : String}
    (h : ∀ declaration ∈ declarations, declaration.isAnnotatedWith marker = true)
    (files : Std.ExtTreeMap String Bytes) :
    ∃ outcomes events,
      (processAll Memory.filer declarations).run { files } =
        ((outcomes, events),
          { files := files.insertMany (declarations.filterMap fun declaration =>
              (declaration.decision marker).file? declaration.qualifiedName) }) ∧
      outcomes.map some = declarations.map (TypeDeclaration.announced? marker) := by
  induction declarations generalizing files with
  | nil => exact ⟨[], [], by simp [processAll], rfl⟩
  | cons declaration declarations ih =>
    obtain ⟨outcome, moved, hfirst, houtcome⟩ :=
      run_processType (h declaration (List.mem_cons_self ..)) files
    obtain ⟨outcomes, events, hrest, houtcomes⟩ :=
      ih (fun other hmem => h other (List.mem_cons_of_mem _ hmem))
        (files.insertMany
          ((declaration.decision marker).file? declaration.qualifiedName).toList)
    refine ⟨outcome :: outcomes, moved ++ events, ?_, ?_⟩
    · simp only [processAll, run_bind, run_pure, hfirst, hrest]
      cases hfile : (declaration.decision marker).file? declaration.qualifiedName with
      | none => simp [hfile]
      | some file =>
        obtain ⟨name, contents⟩ := file
        simp [hfile, Std.ExtTreeMap.insertMany_cons]
    · simp [houtcome, houtcomes]

/-- A run in memory brings the first annotated declaration of each name to what was decided about
it, and leaves exactly the announced files. -/
theorem run_runToCompletion (processor : Processor) (declarations : List TypeDeclaration) :
    ∃ report events pool,
      (processor.runToCompletion Memory.filer (Pool.ofList declarations)).run {} =
        ((report, events, pool),
          { files := (∅ : Std.ExtTreeMap String Bytes).insertMany
              ((Pool.firstOfEachName processor.marker declarations).filterMap fun declaration =>
                (declaration.decision processor.marker).file? declaration.qualifiedName) }) ∧
      report.outcomes.map some = (Pool.firstOfEachName processor.marker declarations).map
        (TypeDeclaration.announced? processor.marker) := by
  obtain ⟨outcomes, events, hrun, houtcomes⟩ :=
    run_processAll (fun _ hmem => Pool.isAnnotatedWith_of_mem_firstOfEachName hmem)
      (∅ : Std.ExtTreeMap String Bytes)
  rw [runToCompletion_eq, Pool.find_ofList, run_map, hrun]
  exact ⟨_, _, _, rfl, by rw [outcomes_reportOf, houtcomes]⟩

end Processor

namespace Pool

/-- No two of the declarations that a pool hands out have the same class announced. -/
theorem nodup_artifacts_firstOfEachName (marker : String)
    (declarations : List TypeDeclaration) :
    ((firstOfEachName marker declarations).filterMap fun declaration =>
      (declaration.decision marker).artifact?).Nodup := by
  have hnames := nodup_names_firstOfEachName marker declarations
  rw [List.nodup_iff_pairwise_ne, List.pairwise_map] at hnames
  have hartifact : ∀ declaration : TypeDeclaration, ∀ artifact,
      (declaration.decision marker).artifact? = some artifact →
        artifact = Java.Subclass.nameOf declaration.qualifiedName := by
    intro declaration artifact h
    cases hdecision : declaration.decision marker with
    | generate name fields =>
      simp only [hdecision, Decision.artifact?, Option.some.injEq] at h
      rw [← h, (TypeDeclaration.eq_of_decision_eq_generate hdecision).1]
    | _ => simp [hdecision, Decision.artifact?] at h
  refine hnames.filterMap _ fun first second hne artifact hfirst other hsecond heq => hne ?_
  have hfirst := hartifact first artifact hfirst
  have hsecond := hartifact second other hsecond
  exact Java.Subclass.nameOf_injective (by rw [← hfirst, ← hsecond, heq])

end Pool

namespace Memory

/-- Distinct files that are put into an empty map are the files of the map. -/
theorem perm_names_insertMany {files : List (String × Bytes)}
    (h : (files.map Prod.fst).Nodup) :
    (names { files := (∅ : Std.ExtTreeMap String Bytes).insertMany files }).Perm
      (files.map Prod.fst) := by
  refine (List.perm_ext_iff_of_nodup ?_ h).mpr fun name => ?_
  · exact Std.ExtTreeMap.distinct_keys.imp fun hne heq => hne (by simp [heq])
  · rw [names, Std.ExtTreeMap.mem_keys]
    simp

/-- Each of them holds what was put into it. -/
theorem get?_insertMany {files : List (String × Bytes)} (h : (files.map Prod.fst).Nodup)
    {name body : String} (hmem : (name, Text.Utf8.encode body) ∈ files) :
    get? { files := (∅ : Std.ExtTreeMap String Bytes).insertMany files } name = some body := by
  have hdistinct : files.Pairwise fun a b => ¬compare a.1 b.1 = .eq := by
    rw [List.nodup_iff_pairwise_ne, List.pairwise_map] at h
    exact h.imp fun hne heq => hne (Std.LawfulEqCmp.eq_of_compare heq)
  have hlookup : ((∅ : Std.ExtTreeMap String Bytes).insertMany files)[name]? =
      some (Text.Utf8.encode body) :=
    Std.ExtTreeMap.getElem?_insertMany_list_of_mem Std.ReflCmp.compare_self hdistinct hmem
  rw [get?, hlookup]
  exact Text.Utf8.decode?_encode body

end Memory

/-- What a line of a preview says of the outcomes of a type, and of the file in memory. -/
inductive Foretells (memory : Memory) (typeName : String) : String → List Outcome → Prop
  | notAnnotated : Foretells memory typeName ("  - " ++ typeName ++ " (not annotated)") []
  | overridden :
      Foretells memory typeName
        ("  ! " ++ typeName ++ " (toString() already overridden, skipped)")
        [.overridden typeName]
  | withoutFields :
      Foretells memory typeName ("  - " ++ typeName ++ " (no eligible fields, skipped)")
        [.withoutFields typeName]
  | generated {artifact : String} {fields : List String}
      (source : memory.get? artifact = some (Java.Subclass.render typeName fields)) :
      Foretells memory typeName
        ("  + " ++ typeName ++ " -> " ++ artifact ++ " [" ++
          String.intercalate ", " fields ++ "]")
        [.ofWriting typeName artifact (.ok ())]

/-- What a run in memory leaves, as it was decided about the first annotated declaration of each
name in a list. -/
structure AsDecided (marker : String) (declarations : List TypeDeclaration)
    (report : RunReport) (memory : Memory) : Prop where
  /-- The outcomes correspond to these declarations one to one and in order. -/
  outcomes : report.outcomes.map some =
    (Pool.firstOfEachName marker declarations).map (TypeDeclaration.announced? marker)
  /-- There is one file for each class announced, and no other. -/
  names : memory.names.Perm
    ((Pool.firstOfEachName marker declarations).filterMap fun declaration =>
      (declaration.decision marker).artifact?)
  /-- Each file holds the source announced. -/
  sources : ∀ declaration ∈ Pool.firstOfEachName marker declarations, ∀ artifact fields,
    declaration.decision marker = .generate artifact fields →
      memory.get? artifact = some (Java.Subclass.render declaration.qualifiedName fields)
  /-- A declaration that counts as not annotated is none of them. -/
  unannotated : ∀ declaration, declaration.decision marker = .notAnnotated →
    declaration ∉ Pool.firstOfEachName marker declarations

/-- The files announced for the declarations that a pool hands out leave memory as decided. -/
theorem asDecided_of_outcomes {marker : String} {declarations : List TypeDeclaration}
    {report : RunReport}
    (houtcomes : report.outcomes.map some =
      (Pool.firstOfEachName marker declarations).map (TypeDeclaration.announced? marker)) :
    AsDecided marker declarations report
      { files := (∅ : Std.ExtTreeMap String Bytes).insertMany
          ((Pool.firstOfEachName marker declarations).filterMap fun declaration =>
            (declaration.decision marker).file? declaration.qualifiedName) } := by
  have hnames : ((Pool.firstOfEachName marker declarations).filterMap fun declaration =>
      (declaration.decision marker).file? declaration.qualifiedName).map Prod.fst =
      (Pool.firstOfEachName marker declarations).filterMap fun declaration =>
        (declaration.decision marker).artifact? := by
    simp only [List.map_filterMap, Decision.map_fst_file?]
  have hnodup := Pool.nodup_artifacts_firstOfEachName marker declarations
  rw [← hnames] at hnodup
  refine ⟨houtcomes, ?_, ?_, ?_⟩
  · rw [← hnames]
    exact Memory.perm_names_insertMany hnodup
  · intro declaration hmem artifact fields hdecision
    refine Memory.get?_insertMany hnodup (List.mem_filterMap.mpr ⟨declaration, hmem, ?_⟩)
    rw [hdecision, Decision.file?]
  · intro declaration hdecision hmem
    have hannotated := Pool.isAnnotatedWith_of_mem_firstOfEachName hmem
    rw [TypeDeclaration.decision_eq_notAnnotated_iff.mp hdecision] at hannotated
    exact Bool.noConfusion hannotated

namespace TypeDeclaration

/-- When no name occurs twice, the outcomes of a type are what is decided about it. -/
theorem filter_outcomes {marker : String} {declarations : List TypeDeclaration}
    (hnodup : (declarations.map qualifiedName).Nodup) {declaration : TypeDeclaration}
    (hmem : declaration ∈ declarations) :
    ((declarations.filterMap (announced? marker)).filter fun outcome =>
      outcome.typeName == declaration.qualifiedName) =
      (declaration.announced? marker).toList := by
  induction declarations with
  | nil => simp at hmem
  | cons first rest ih =>
    rw [List.map_cons, List.nodup_cons] at hnodup
    obtain ⟨hnew, hnodup⟩ := hnodup
    rcases List.mem_cons.mp hmem with rfl | hmem
    · have hothers : ((rest.filterMap (announced? marker)).filter fun outcome =>
          outcome.typeName == declaration.qualifiedName) = [] := by
        refine List.filter_eq_nil_iff.mpr fun outcome houtcome hname => ?_
        obtain ⟨other, hother, heq⟩ := List.mem_filterMap.mp houtcome
        rw [typeName_of_announced? heq, beq_iff_eq] at hname
        exact hnew (hname ▸ List.mem_map_of_mem hother)
      cases hfirst : declaration.announced? marker with
      | none => rw [List.filterMap_cons_none hfirst, hothers, Option.toList_none]
      | some outcome =>
        rw [List.filterMap_cons_some hfirst, List.filter_cons_of_pos
          (by simp [typeName_of_announced? hfirst]), hothers, Option.toList_some]
    · have hne : first.qualifiedName ≠ declaration.qualifiedName := fun heq =>
        hnew (heq ▸ List.mem_map_of_mem hmem)
      cases hfirst : first.announced? marker with
      | none => rw [List.filterMap_cons_none hfirst, ih hnodup hmem]
      | some outcome =>
        rw [List.filterMap_cons_some hfirst, List.filter_cons_of_neg
          (by simp [typeName_of_announced? hfirst, hne]), ih hnodup hmem]

/-- The line about a well-formed declaration is a single one, and foretells what is decided about
the declaration. -/
theorem exists_line {declaration : TypeDeclaration} (hwell : declaration.WellFormed)
    {marker : String} {memory : Memory}
    (hsource : ∀ artifact fields, declaration.decision marker = .generate artifact fields →
      memory.get? artifact = some (Java.Subclass.render declaration.qualifiedName fields)) :
    ∃ line : String,
      (declaration.decision marker).line declaration.qualifiedName = line ++ "\n" ∧
        '\n' ∉ line.toList ∧
        Foretells memory declaration.qualifiedName line
          (declaration.announced? marker).toList := by
  have hbreak : Java.isIdentifierPart '\n' = false :=
    Java.isIdentifierPart_eq_false_of_punctuation (by decide)
  have hname : '\n' ∉ declaration.qualifiedName.toList :=
    Java.QualifiedName.not_mem_of_isQualifiedIdentifier hwell.name hbreak (by decide)
  unfold announced?
  cases hdecision : declaration.decision marker with
  | notAnnotated =>
    refine ⟨_, String.toList_inj.mp ?_, ?_, .notAnnotated⟩
    · simp [Decision.line]
    · simp [hname]
  | alreadyOverridden =>
    refine ⟨_, String.toList_inj.mp ?_, ?_, .overridden⟩
    · simp [Decision.line]
    · simp [hname]
  | noEligibleFields =>
    refine ⟨_, String.toList_inj.mp ?_, ?_, .withoutFields⟩
    · simp [Decision.line]
    · simp [hname]
  | generate artifact fields =>
    obtain ⟨hartifact, hfields⟩ := eq_of_decision_eq_generate hdecision
    have hartifact : '\n' ∉ artifact.toList := by
      rw [hartifact]
      exact Java.QualifiedName.not_mem_of_isQualifiedIdentifier
        (Java.Subclass.isQualifiedIdentifier_nameOf hwell.name) hbreak (by decide)
    have hfields : '\n' ∉ (String.intercalate ", " fields).toList := by
      intro hmem
      rw [String.toList_intercalate] at hmem
      rcases Text.mem_intercalate hmem with hmem | ⟨part, hpart, hmem⟩
      · simp at hmem
      · obtain ⟨name, hshown, rfl⟩ := List.mem_map.mp hpart
        rw [hfields] at hshown
        obtain ⟨field, hfield, rfl⟩ := List.mem_map.mp hshown
        exact Java.not_mem_of_isIdentifier
          (hwell.fields field (List.mem_of_mem_filter hfield)) hbreak hmem
    refine ⟨_, String.toList_inj.mp ?_, ?_, .generated (hsource artifact fields hdecision)⟩
    · simp [Decision.line]
    · simpa [hname, hartifact] using hfields

end TypeDeclaration

namespace Manifest

/-- The preview of well-formed declarations has one line for each, and each line foretells what is
decided about its declaration. -/
theorem exists_lines {declarations : List TypeDeclaration}
    (hwell : ∀ declaration ∈ declarations, declaration.WellFormed) {marker : String}
    {memory : Memory}
    (hsource : ∀ declaration ∈ declarations, ∀ artifact fields,
      declaration.decision marker = .generate artifact fields →
        memory.get? artifact = some (Java.Subclass.render declaration.qualifiedName fields)) :
    ∃ lines : List String,
      Text.segments '\n' (describe { types := declarations } marker).toList =
        lines.map String.toList ++ [[]] ∧
      List.Forall₂ (fun declaration line =>
        Foretells memory declaration.qualifiedName line (declaration.announced? marker).toList)
        declarations lines := by
  have hlines : ∃ lines : List String,
      (describe { types := declarations } marker).toList =
        (lines.map String.toList).flatMap (fun line => line ++ ['\n']) ∧
      (∀ line ∈ lines, '\n' ∉ line.toList) ∧
      List.Forall₂ (fun declaration line =>
        Foretells memory declaration.qualifiedName line (declaration.announced? marker).toList)
        declarations lines := by
    induction declarations with
    | nil => exact ⟨[], rfl, by simp, .nil⟩
    | cons declaration rest ih =>
      obtain ⟨line, htext, hbreak, hline⟩ :=
        TypeDeclaration.exists_line (hwell declaration (List.mem_cons_self ..))
          (hsource declaration (List.mem_cons_self ..))
      obtain ⟨lines, hrest, hbreaks, hlines⟩ :=
        ih (fun other hmem => hwell other (List.mem_cons_of_mem _ hmem))
          (fun other hmem => hsource other (List.mem_cons_of_mem _ hmem))
      simp only [describe] at hrest
      refine ⟨line :: lines, ?_, List.forall_mem_cons.mpr ⟨hbreak, hbreaks⟩, .cons hline hlines⟩
      simp only [describe, List.map_cons, String.join_cons, String.toList_append, hrest, htext,
        List.flatMap_cons]
      rfl
  obtain ⟨lines, htext, hbreaks, hlines⟩ := hlines
  refine ⟨lines, ?_, hlines⟩
  rw [htext, Text.segments_flatMap_concat]
  intro line hline
  obtain ⟨text, hmem, rfl⟩ := List.mem_map.mp hline
  exact hbreaks text hmem

end Manifest

/-- Previews come true. A run in memory over any declarations leaves, for the first annotated
declaration of each name, exactly what was decided about it. When the declarations make a valid
manifest these are all annotated ones, and the preview has one line for each declaration, which
foretells its outcomes in the run. -/
theorem run_asDecided (processor : Processor) (declarations : List TypeDeclaration) :
    let run := (processor.runToCompletion Memory.filer (Pool.ofList declarations)).run {}
    let report : RunReport := run.1.1
    let memory : Memory := run.2
    let manifest : Manifest := { types := declarations }
    AsDecided processor.marker declarations report memory ∧
      (manifest.validate = .ok () →
        Pool.firstOfEachName processor.marker declarations =
          declarations.filter (fun declaration => declaration.isAnnotatedWith processor.marker) ∧
        ∃ lines : List String,
          Text.segments '\n' (manifest.describe processor.marker).toList =
            lines.map String.toList ++ [[]] ∧
          List.Forall₂ (fun declaration line =>
            Foretells memory declaration.qualifiedName line
              (report.outcomes.filter fun outcome =>
                outcome.typeName == declaration.qualifiedName))
            declarations lines) := by
  intro run report memory manifest
  obtain ⟨found, events, pool, hrun, houtcomes⟩ :=
    processor.run_runToCompletion declarations
  have hreport : report = found := congrArg (fun result => result.1.1) hrun
  have hmemory : memory = _ := congrArg Prod.snd hrun
  have hdecided : AsDecided processor.marker declarations report memory := by
    rw [hreport, hmemory]
    exact asDecided_of_outcomes houtcomes
  refine ⟨hdecided, fun hvalid => ?_⟩
  obtain ⟨_, hwell, hnodup⟩ := Manifest.validate_eq_ok_iff.mp hvalid
  have hfound := @Pool.firstOfEachName_of_nodup processor.marker declarations hnodup
  refine ⟨hfound, ?_⟩
  have hall : report.outcomes =
      declarations.filterMap (TypeDeclaration.announced? processor.marker) := by
    calc report.outcomes = (report.outcomes.map some).filterMap id := by simp
      _ = ((declarations.filter fun declaration =>
            declaration.isAnnotatedWith processor.marker).map
              (TypeDeclaration.announced? processor.marker)).filterMap id := by
          rw [hdecided.outcomes, hfound]
      _ = declarations.filterMap (TypeDeclaration.announced? processor.marker) := by
          rw [List.filterMap_map, List.filterMap_filter]
          refine List.filterMap_congr fun declaration _ => ?_
          by_cases hannotated : declaration.isAnnotatedWith processor.marker = true
          · rw [if_pos hannotated, Function.id_comp]
          · have hdecision := TypeDeclaration.decision_eq_notAnnotated_iff.mpr
              (Bool.eq_false_iff.mpr hannotated)
            rw [if_neg hannotated, TypeDeclaration.announced?, hdecision, Decision.outcome?]
  have hsources : ∀ declaration ∈ declarations, ∀ artifact fields,
      declaration.decision processor.marker = .generate artifact fields →
        memory.get? artifact =
          some (Java.Subclass.render declaration.qualifiedName fields) := by
    intro declaration hmem artifact fields hdecision
    have hannotated : declaration.isAnnotatedWith processor.marker = true := by
      by_contra hnot
      rw [TypeDeclaration.decision_eq_notAnnotated_iff.mpr (Bool.eq_false_iff.mpr hnot)]
        at hdecision
      exact Decision.noConfusion hdecision
    exact hdecided.sources declaration
      (hfound ▸ List.mem_filter.mpr ⟨hmem, hannotated⟩) artifact fields hdecision
  obtain ⟨lines, htext, hlines⟩ := Manifest.exists_lines hwell hsources
  refine ⟨lines, htext, ?_⟩
  have hmembers := (List.forall₂_and_left _ _).mpr ⟨fun _ hmem => hmem, hlines⟩
  refine hmembers.imp fun declaration line ⟨hmem, hline⟩ => ?_
  rw [hall, TypeDeclaration.filter_outcomes hnodup hmem]
  exact hline

/-- Declarations about which the four decisions differ. -/
def oneOfEachDecision : List TypeDeclaration :=
  [{ qualifiedName := "geo.Point", annotations := ["CustomToString"],
     fields := [{ name := "x" }, { name := "y" }] },
   { qualifiedName := "geo.Shape", annotations := [defaultMarker], methods := ["toString"] },
   { qualifiedName := "Secret", annotations := ["Other", "CustomToString"],
     fields := [{ name := "key", visibility := .privateAccess }] },
   { qualifiedName := "geo.Plain", fields := [{ name := "x" }] }]

/-- A manifest whose declarations are decided about in the four different ways. -/
theorem run_asDecided_of_oneOfEachDecision :
    let processor : Processor := {}
    let run := (processor.runToCompletion Memory.filer (Pool.ofList oneOfEachDecision)).run {}
    let manifest : Manifest := { types := oneOfEachDecision }
    manifest.validate = .ok () ∧
      AsDecided processor.marker oneOfEachDecision run.1.1 run.2 ∧
      ∃ lines : List String,
        Text.segments '\n' (manifest.describe processor.marker).toList =
          lines.map String.toList ++ [[]] ∧
        List.Forall₂ (fun declaration line =>
          Foretells run.2 declaration.qualifiedName line
            (run.1.1.outcomes.filter fun outcome =>
              outcome.typeName == declaration.qualifiedName))
          oneOfEachDecision lines := by
  intro processor run manifest
  have hvalid : manifest.validate = .ok () := by decide +kernel
  obtain ⟨hdecided, hmanifest⟩ := run_asDecided processor oneOfEachDecision
  exact ⟨hvalid, hdecided, (hmanifest hvalid).2⟩

end ToStringGen
