import ToStringGen.Java.Identifier
import ToStringGen.Java.Subclass
import ToStringGen.Proofs.Text.Segments

/-!
# Accepted names

Every qualified name is its package segments followed by its simple name. For an
accepted name all of them are identifiers, so none is empty and none holds a
character that punctuates source text or paths. The generated class extends the
simple name only, and its name is accepted again.
-/

namespace ToStringGen.Java

/-- Whatever can begin an identifier can also continue one. -/
theorem isIdentifierPart_of_isIdentifierStart {c : Char} (h : isIdentifierStart c = true) :
    isIdentifierPart c = true := by
  simp only [isIdentifierStart, Bool.or_eq_true] at h
  simp only [isIdentifierPart, Bool.or_eq_true]
  rcases h with (h | h) | h <;> simp [h]

/-- An identifier begins with a character that can begin one and goes on with characters that
can continue it. The reserved words are the only other requirement. -/
theorem isIdentifier_iff {text : String} :
    isIdentifier text = true ↔ text ∉ reservedWords ∧
      ∃ c rest, text.toList = c :: rest ∧ isIdentifierStart c = true ∧
        ∀ d ∈ rest, isIdentifierPart d = true := by
  unfold isIdentifier
  cases htext : text.toList <;> simp

/-- All characters of an identifier can continue one. -/
theorem isIdentifierPart_of_mem {text : String} (h : isIdentifier text = true) {c : Char}
    (hc : c ∈ text.toList) : isIdentifierPart c = true := by
  obtain ⟨_, first, rest, htext, hfirst, hrest⟩ := isIdentifier_iff.mp h
  rw [htext] at hc
  rcases List.mem_cons.mp hc with rfl | hc
  · exact isIdentifierPart_of_isIdentifierStart hfirst
  · exact hrest c hc

/-- An identifier has at least one character. -/
theorem toList_ne_nil_of_isIdentifier {text : String} (h : isIdentifier text = true) :
    text.toList ≠ [] := by
  obtain ⟨_, first, rest, htext, _⟩ := isIdentifier_iff.mp h
  simp [htext]

/-- A character that cannot continue an identifier is in none. Dots, slashes, quotes and the
character that ends texts are all of this kind. -/
theorem not_mem_of_isIdentifier {text : String} (h : isIdentifier text = true) {c : Char}
    (hc : isIdentifierPart c = false) : c ∉ text.toList := by
  intro hmem
  rw [isIdentifierPart_of_mem h hmem] at hc
  exact Bool.noConfusion hc

/-- The characters that punctuate source text, paths and lines cannot continue an identifier. -/
theorem isIdentifierPart_eq_false_of_punctuation {c : Char}
    (hc : c ∈ ['.', '/', ';', ',', '+', '(', ')', '\x7b', '\x7d', '"', '\\', ' ', '\t', '\n',
      '\r', '\x00']) :
    isIdentifierPart c = false := by
  have hall : ['.', '/', ';', ',', '+', '(', ')', '\x7b', '\x7d', '"', '\\', ' ', '\t', '\n',
      '\r', '\x00'].all (fun c => !isIdentifierPart c) = true := by decide +kernel
  simpa using List.all_eq_true.mp hall c hc

namespace QualifiedName

/-- The segments of the package: all but the last. -/
def packageSegments (name : String) : List String :=
  (segments name).dropLast

/-- Putting the dots back gives the name. -/
theorem intercalate_segments (name : String) :
    String.intercalate "." (segments name) = name := by
  apply String.toList_inj.mp
  have htext : ((segments name).map String.toList) = Text.segments '.' name.toList := by
    simp [segments, Function.comp_def]
  rw [String.toList_intercalate, htext]
  exact Text.intercalate_segments '.' name.toList

/-- The last segment is the simple name, whatever the name looks like. -/
theorem segments_eq (name : String) :
    segments name = packageSegments name ++ [simple name] := by
  unfold packageSegments segments simple
  cases hcut : Text.lastCut? '.' name.toList with
  | none => simp [Text.segments_of_not_mem (Text.lastCut?_eq_none_iff.mp hcut)]
  | some cut =>
    obtain ⟨before, after⟩ := cut
    simp [Text.segments_of_lastCut? hcut]

/-- Only a name without a dot has no package segments. -/
theorem packageSegments_eq_nil_iff {name : String} :
    packageSegments name = [] ↔ '.' ∉ name.toList := by
  constructor
  · intro hnil
    have hone := segments_eq name
    rw [hnil, List.nil_append, segments] at hone
    obtain ⟨text, htext, _⟩ := List.map_eq_singleton_iff.mp hone
    have hjoin := Text.intercalate_segments '.' name.toList
    rw [htext, List.intercalate_singleton] at hjoin
    have hmem : text ∈ Text.segments '.' name.toList := by simp [htext]
    rw [← hjoin]
    exact Text.not_mem_of_mem_segments hmem
  · intro hdot
    simp [packageSegments, segments, Text.segments_of_not_mem hdot]

/-- Every segment of an accepted name is an identifier. -/
theorem isIdentifier_of_mem_segments {name segment : String}
    (h : isQualifiedIdentifier name = true) (hmem : segment ∈ segments name) :
    isIdentifier segment = true :=
  List.all_eq_true.mp h segment hmem

/-- The segments of the package of an accepted name are identifiers. -/
theorem isIdentifier_of_mem_packageSegments {name segment : String}
    (h : isQualifiedIdentifier name = true) (hmem : segment ∈ packageSegments name) :
    isIdentifier segment = true :=
  isIdentifier_of_mem_segments h (List.dropLast_subset _ hmem)

/-- The simple name of an accepted name is an identifier. -/
theorem isIdentifier_simple {name : String} (h : isQualifiedIdentifier name = true) :
    isIdentifier (simple name) = true :=
  isIdentifier_of_mem_segments h (by simp [segments_eq name])

/-- A character that is neither a dot nor fit to continue an identifier is in no accepted
name. -/
theorem not_mem_of_isQualifiedIdentifier {name : String} (h : isQualifiedIdentifier name = true)
    {c : Char} (hc : isIdentifierPart c = false) (hdot : c ≠ '.') : c ∉ name.toList := by
  intro hmem
  rw [← intercalate_segments name, String.toList_intercalate] at hmem
  rcases Text.mem_intercalate hmem with hmem | ⟨part, hpart, hmem⟩
  · exact hdot (List.mem_singleton.mp hmem)
  · obtain ⟨segment, hsegment, rfl⟩ := List.mem_map.mp hpart
    exact not_mem_of_isIdentifier (isIdentifier_of_mem_segments h hsegment) hc hmem

/-- An accepted name with a dot has a package, spelt by its segments; the leading dot that would
leave a package without text is not accepted. -/
theorem package?_eq {name : String} (h : isQualifiedIdentifier name = true) :
    package? name =
      if packageSegments name = [] then none
      else some (String.intercalate "." (packageSegments name)) := by
  cases hcut : Text.lastCut? '.' name.toList with
  | none =>
    rw [if_pos (packageSegments_eq_nil_iff.mpr (Text.lastCut?_eq_none_iff.mp hcut))]
    simp [package?, hcut]
  | some cut =>
    obtain ⟨before, after⟩ := cut
    have hsegments : packageSegments name = segments (String.ofList before) := by
      simp [packageSegments, segments, Text.segments_of_lastCut? hcut]
    have hne : segments (String.ofList before) ≠ [] := by
      simp [segments, Text.segments_ne_nil]
    rw [hsegments, if_neg hne, intercalate_segments]
    cases before with
    | nil =>
      have hempty : isIdentifier "" = true :=
        isIdentifier_of_mem_packageSegments h (by rw [hsegments]; simp [segments, Text.segments])
      exact absurd rfl (toList_ne_nil_of_isIdentifier hempty)
    | cons c rest => simp [package?, hcut]

/-- The generated class has the package of the type and its simple name with the suffix. -/
theorem segments_nameOf (name : String) :
    segments (Subclass.nameOf name) =
      packageSegments name ++ [simple name ++ Subclass.nameSuffix] := by
  have hsuffix : '.' ∉ Subclass.nameSuffix.toList := by decide
  unfold packageSegments segments simple Subclass.nameOf
  cases hcut : Text.lastCut? '.' name.toList with
  | none =>
    have hdot := Text.lastCut?_eq_none_iff.mp hcut
    have hwhole : '.' ∉ name.toList ++ Subclass.nameSuffix.toList := by simp [hdot, hsuffix]
    rw [String.toList_append, Text.segments_of_not_mem hwhole, Text.segments_of_not_mem hdot]
    simp [← String.toList_append]
  | some cut =>
    obtain ⟨before, after⟩ := cut
    obtain ⟨hname, hafter⟩ := Text.eq_of_lastCut? hcut
    have hlast : '.' ∉ after ++ Subclass.nameSuffix.toList := by simp [hafter, hsuffix]
    rw [String.toList_append, Text.segments_of_lastCut? hcut, hname, List.append_assoc,
      List.cons_append, Text.segments_append_cons, Text.segments_of_not_mem hlast]
    simp

end QualifiedName

namespace Subclass

open QualifiedName

/-- An identifier with the suffix is an identifier: the suffix brings a capital letter, which no
reserved word has. -/
theorem isIdentifier_append_nameSuffix {text : String} (h : isIdentifier text = true) :
    isIdentifier (text ++ nameSuffix) = true := by
  obtain ⟨_, first, rest, htext, hfirst, hrest⟩ := isIdentifier_iff.mp h
  have hsuffix : ∀ c ∈ nameSuffix.toList, isIdentifierPart c = true :=
    List.all_eq_true.mp (by decide +kernel)
  refine isIdentifier_iff.mpr ⟨?_, first, rest ++ nameSuffix.toList, by simp [htext], hfirst, ?_⟩
  · intro hmem
    have hcapital : ∀ word ∈ reservedWords, 'W' ∉ word.toList := by decide
    exact hcapital _ hmem (by simp [nameSuffix])
  · intro c hc
    rcases List.mem_append.mp hc with hc | hc
    · exact hrest c hc
    · exact hsuffix c hc

/-- The package of the generated class is that of the type. -/
theorem packageSegments_nameOf (name : String) :
    packageSegments (nameOf name) = packageSegments name := by
  rw [packageSegments, segments_nameOf, List.dropLast_concat]

/-- The simple name of the generated class is that of the type with the suffix. -/
theorem simple_nameOf (name : String) : simple (nameOf name) = simple name ++ nameSuffix := by
  have h := segments_eq (nameOf name)
  rw [segments_nameOf, packageSegments_nameOf] at h
  simpa using h.symm

/-- The name of the class generated for an accepted name is accepted. -/
theorem isQualifiedIdentifier_nameOf {name : String} (h : isQualifiedIdentifier name = true) :
    isQualifiedIdentifier (nameOf name) = true := by
  unfold isQualifiedIdentifier
  rw [segments_nameOf]
  simp only [List.all_append, List.all_cons, List.all_nil, Bool.and_true, Bool.and_eq_true,
    List.all_eq_true]
  exact ⟨fun segment hmem => isIdentifier_of_mem_packageSegments h hmem,
    isIdentifier_append_nameSuffix (isIdentifier_simple h)⟩

/-- Different types have different generated classes. -/
theorem nameOf_injective : Function.Injective nameOf := by
  intro name other h
  apply String.toList_inj.mp
  have htext := congrArg String.toList h
  simpa [nameOf] using htext

end Subclass

end ToStringGen.Java
