import ToStringGen.Artifact
import ToStringGen.Proofs.Java.Placement

/-!
# The names of a generated class agree

The name of a generated class is cut into its package and its simple name, the package
clause and the class header are built from the parts of the name of its type, and the path
of its file is put together from segments. Whatever the name of the type looks like, the
first two agree, since the suffix comes after the last dot; for an accepted name the file
lies where its package clause says.
-/

namespace ToStringGen

namespace Text

/-- Text without separators goes to the end of what stands after the last separator. -/
theorem lastCut?_append {separator : Char} {tail : List Char} (h : separator ∉ tail)
    (text : List Char) :
    lastCut? separator (text ++ tail) =
      (lastCut? separator text).map fun (before, after) => (before, after ++ tail) := by
  induction text with
  | nil => exact lastCut?_eq_none_iff.mpr h
  | cons c rest ih =>
    rw [List.cons_append, lastCut?, lastCut?, ih]
    cases lastCut? separator rest with
    | some cut => rfl
    | none =>
      by_cases hc : c = separator
      · simp [hc]
      · simp [hc]

end Text

namespace Java

namespace QualifiedName

/-- A package as directories: every dot becomes a slash. -/
def withSlashes (package : String) : String :=
  package.map fun c => if c = '.' then '/' else c

/-- The directories of a package, with a slash after the last one; the unnamed package has none. -/
def directories : Option String → String
  | none => ""
  | some package => withSlashes package ++ "/"

/-- No dot is left in a simple name. -/
theorem dot_not_mem_simple (name : String) : '.' ∉ (simple name).toList := by
  unfold simple
  cases hcut : Text.lastCut? '.' name.toList with
  | none => exact Text.lastCut?_eq_none_iff.mp hcut
  | some cut =>
    rw [String.toList_ofList]
    exact (Text.eq_of_lastCut? hcut).2

/-- A name with a package is the package, a dot and the simple name. -/
theorem eq_of_package?_eq_some {name package : String} (h : package? name = some package) :
    name = package ++ "." ++ simple name := by
  unfold package? at h
  unfold simple
  cases hcut : Text.lastCut? '.' name.toList with
  | none => simp [hcut] at h
  | some cut =>
    obtain ⟨before, after⟩ := cut
    obtain ⟨hname, _⟩ := Text.eq_of_lastCut? hcut
    cases before with
    | nil => simp [hcut] at h
    | cons c rest =>
      simp only [hcut, Option.some.injEq] at h
      apply String.toList_inj.mp
      simp [← h, hname]

/-- A name without a package is the simple name, or that after a single dot. -/
theorem eq_of_package?_eq_none {name : String} (h : package? name = none) :
    name = simple name ∨ name = "." ++ simple name := by
  unfold package? at h
  unfold simple
  cases hcut : Text.lastCut? '.' name.toList with
  | none => exact Or.inl rfl
  | some cut =>
    obtain ⟨before, after⟩ := cut
    obtain ⟨hname, _⟩ := Text.eq_of_lastCut? hcut
    cases before with
    | nil =>
      right
      apply String.toList_inj.mp
      simp [hname]
    | cons c rest => simp [hcut] at h

/-- The dots between names without dots become slashes between them. -/
theorem withSlashes_intercalate {names : List String} (h : ∀ name ∈ names, '.' ∉ name.toList) :
    withSlashes (String.intercalate "." names) = String.intercalate "/" names := by
  have hkeep : ∀ name : String, '.' ∉ name.toList → withSlashes name = name := by
    intro name hname
    apply String.toList_inj.mp
    rw [withSlashes, String.toList_map]
    refine (List.map_congr_left fun c hc => if_neg ?_).trans (List.map_id _)
    exact fun hdot => hname (hdot ▸ hc)
  have happend : ∀ text other : String,
      withSlashes (text ++ other) = withSlashes text ++ withSlashes other := by
    intro text other
    apply String.toList_inj.mp
    simp [withSlashes]
  have hdot : withSlashes "." = "/" := String.toList_inj.mp (by simp [withSlashes])
  induction names with
  | nil => exact String.toList_inj.mp (by simp [withSlashes])
  | cons name names ih =>
    obtain ⟨hname, hnames⟩ := List.forall_mem_cons.mp h
    cases names with
    | nil => simpa using hkeep name hname
    | cons next more =>
      rw [String.intercalate_cons_cons, String.intercalate_cons_cons, happend, happend, hdot,
        hkeep name hname, ih hnames]

/-- The source of an accepted name lies in the directories of its package, if it has one, in a
file of its simple name. -/
theorem text_sourcePath {name : String} (h : isQualifiedIdentifier name = true) :
    (sourcePath name).text = directories (package? name) ++ simple name ++ ".java" := by
  have hdot : ∀ segment ∈ packageSegments name, '.' ∉ segment.toList := fun segment hmem =>
    not_mem_of_isIdentifier (isIdentifier_of_mem_packageSegments h hmem)
      (isIdentifierPart_eq_false_of_punctuation (by decide))
  rw [sourcePath_eq h, package?_eq h, sourceNames, sourceEnding]
  by_cases hpackage : packageSegments name = []
  · simp [hpackage, directories]
  · rw [if_neg hpackage, directories, withSlashes_intercalate hdot,
      String.intercalate_append_of_ne_nil hpackage (List.cons_ne_nil _ _),
      String.intercalate_singleton]
    simp only [String.append_assoc]

end QualifiedName

/-- The package of the generated class is that of the type, whatever its name looks like. -/
theorem Subclass.package?_nameOf (name : String) :
    QualifiedName.package? (nameOf name) = QualifiedName.package? name := by
  have hdot : '.' ∉ nameSuffix.toList := by decide
  have hcut := Text.lastCut?_append hdot name.toList
  unfold QualifiedName.package? nameOf
  rw [String.toList_append, hcut]
  cases Text.lastCut? '.' name.toList with
  | none => rfl
  | some cut => obtain ⟨_ | ⟨c, before⟩, after⟩ := cut <;> rfl

/-- A source opens with a clause for the package, if there is one, and then has the simple name of
the class in its header and in the first literal. -/
def Subclass.OpensFor (package? : Option String) (simpleName typeName source : String) : Prop :=
  ∃ rest, source =
    (match package? with
      | none => ""
      | some package => "package " ++ package ++ ";\n\n") ++
    "public class " ++ simpleName ++ " extends " ++ typeName ++ " \x7b\n" ++
    "\tpublic String toString() \x7b\n" ++
    "\t\treturn \"" ++ simpleName ++ "\x7b\"" ++ rest

/-- Only with a package does a source open with a package clause. -/
theorem Subclass.OpensFor.clause_iff {package? : Option String}
    {simpleName typeName source : String} (h : OpensFor package? simpleName typeName source) :
    (∃ package, ("package " ++ package ++ ";\n\n").toList <+: source.toList) ↔
      package?.isSome = true := by
  obtain ⟨rest, rfl⟩ := h
  cases package? with
  | none => simp
  | some package =>
    refine ⟨fun _ => rfl, fun _ => ⟨package, ?_⟩⟩
    simp only [String.toList_append, List.append_assoc, List.prefix_append_right_inj]
    exact List.prefix_append _ _

/-- The source of a generated class opens with the clause and the header that the name of the type
gives. -/
theorem Subclass.opensFor_render (typeName : String) (fields : List String) :
    OpensFor (QualifiedName.package? typeName) (QualifiedName.simple typeName ++ "WithToString")
      typeName (render typeName fields) := by
  refine ⟨fieldOperands fields ++ " + \"\x7d\";\n" ++ "\t\x7d\n" ++ "\x7d\n",
    String.toList_inj.mp ?_⟩
  rw [render, packageClause]
  cases QualifiedName.package? typeName <;> simp [nameOf, nameSuffix, methodName]

end Java

open Java Java.QualifiedName

/-- The names in the class generated for a type agree with the name of the type and with each
other. -/
structure NamesAgree (typeName : String) (artifact : Artifact) : Prop where
  simpleName_eq : artifact.simpleName = simple typeName ++ "WithToString"
  dot_not_mem : '.' ∉ artifact.simpleName.toList
  package?_eq : artifact.package? = package? typeName
  opensFor : Subclass.OpensFor artifact.package? artifact.simpleName typeName artifact.body
  /-- Only with a package does the source open with a package clause. -/
  clause_iff : (∃ package, ("package " ++ package ++ ";\n\n").toList <+: artifact.body.toList) ↔
    artifact.package?.isSome = true
  /-- Nothing of the name is lost but a dot at its start. -/
  whole : match package? typeName with
    | some package => typeName = package ++ "." ++ simple typeName
    | none => typeName = simple typeName ∨ typeName = "." ++ simple typeName

namespace GenerationRequest

/-- Whatever the name of a type looks like, the class generated for it has its package and the
simple name with the suffix, and its source is headed by both; the name of the type can be put
together again from them. The file of an accepted name lies in the directories of the package,
under the name of the class. -/
theorem synthesized_names_agree (request : GenerationRequest) :
    NamesAgree request.qualifiedName request.synthesize ∧
      (isQualifiedIdentifier request.qualifiedName = true →
        request.synthesize.relativePath.text =
          directories request.synthesize.package? ++ request.synthesize.simpleName ++
            ".java") := by
  have hsimple : request.synthesize.simpleName =
      simple request.qualifiedName ++ "WithToString" := Subclass.simple_nameOf _
  have hpackage : request.synthesize.package? = package? request.qualifiedName :=
    Subclass.package?_nameOf _
  have hopens : Subclass.OpensFor request.synthesize.package? request.synthesize.simpleName
      request.qualifiedName request.synthesize.body := by
    rw [hpackage, hsimple]
    exact Subclass.opensFor_render _ _
  refine ⟨⟨hsimple, dot_not_mem_simple _, hpackage, hopens, hopens.clause_iff, ?_⟩, fun h => ?_⟩
  · split
    · next hsome => exact eq_of_package?_eq_some hsome
    · next hnone => exact eq_of_package?_eq_none hnone
  · exact text_sourcePath (Subclass.isQualifiedIdentifier_nameOf h)

/-- A class of a package inside another one, to be shown with one field. -/
def shownMark : GenerationRequest where
  qualifiedName := "geo.plane.Mark"
  fields := [{ name := "x" }]
  fields_ne_nil := List.cons_ne_nil _ _

/-- The class generated for an accepted name lies in the directories of its package. -/
theorem synthesized_names_agree_of_shownMark :
    isQualifiedIdentifier shownMark.qualifiedName = true ∧
      NamesAgree shownMark.qualifiedName shownMark.synthesize ∧
      shownMark.synthesize.relativePath.text =
        directories shownMark.synthesize.package? ++ shownMark.synthesize.simpleName ++
          ".java" ∧
      shownMark.synthesize.package? = some "geo.plane" ∧
      shownMark.synthesize.simpleName = "MarkWithToString" := by
  have haccepted : isQualifiedIdentifier shownMark.qualifiedName = true := by decide +kernel
  obtain ⟨hagree, hpath⟩ := synthesized_names_agree shownMark
  exact ⟨haccepted, hagree, hpath haccepted, by decide +kernel, by decide +kernel⟩

end GenerationRequest

end ToStringGen
