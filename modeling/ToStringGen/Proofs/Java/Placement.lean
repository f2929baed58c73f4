import ToStringGen.Proofs.Java.Name
import ToStringGen.Proofs.Path

/-!
# Where sources lie

The source of a type lies below the directories that its package spells, in a file
of its simple name. The names on the way are plain ones, and the dot before the
ending keeps the files of accepted names apart from all directories.
-/

namespace ToStringGen.Java.QualifiedName

/-- The ending of source files. -/
def sourceEnding : String := ".java"

/-- The names on the way to the source of a type. -/
def sourceNames (name : String) : List String :=
  packageSegments name ++ [simple name ++ sourceEnding]

/-- There is at least the name of the file. -/
theorem sourceNames_ne_nil (name : String) : sourceNames name ≠ [] := by
  simp [sourceNames]

/-- An identifier names a directory. -/
theorem isName_of_isIdentifier {text : String} (h : isIdentifier text = true) :
    Path.IsName text where
  ne_empty := fun heq => toList_ne_nil_of_isIdentifier h (by rw [heq]; rfl)
  no_slash := not_mem_of_isIdentifier h (isIdentifierPart_eq_false_of_punctuation (by decide))
  ne_here := fun heq => not_mem_of_isIdentifier h
    (isIdentifierPart_eq_false_of_punctuation (c := '.') (by decide)) (by rw [heq]; decide)
  ne_up := fun heq => not_mem_of_isIdentifier h
    (isIdentifierPart_eq_false_of_punctuation (c := '.') (by decide)) (by rw [heq]; decide)

/-- An identifier with the ending names a file. -/
theorem isName_append_sourceEnding {text : String} (h : isIdentifier text = true) :
    Path.IsName (text ++ sourceEnding) := by
  have hslash : '/' ∉ text.toList :=
    not_mem_of_isIdentifier h (isIdentifierPart_eq_false_of_punctuation (by decide))
  have hlong : ∀ other : String, other.toList.length ≤ 2 → text ++ sourceEnding ≠ other := by
    intro other hshort heq
    rw [← heq] at hshort
    simp [sourceEnding] at hshort
  exact ⟨hlong "" (by decide), by simp [hslash, sourceEnding], hlong "." (by decide),
    hlong ".." (by decide)⟩

/-- All names on the way to the source of an accepted name are plain ones. -/
theorem isName_of_mem_sourceNames {name part : String} (h : isQualifiedIdentifier name = true)
    (hmem : part ∈ sourceNames name) : Path.IsName part := by
  rcases List.mem_append.mp hmem with hmem | hmem
  · exact isName_of_isIdentifier (isIdentifier_of_mem_packageSegments h hmem)
  · rw [List.mem_singleton.mp hmem]
    exact isName_append_sourceEnding (isIdentifier_simple h)

/-- The name of a source file is no identifier, so that no package has it for a segment. -/
theorem isIdentifier_append_sourceEnding (text : String) :
    isIdentifier (text ++ sourceEnding) = false := by
  refine Bool.eq_false_iff.mpr fun h => ?_
  have hdot := not_mem_of_isIdentifier h
    (isIdentifierPart_eq_false_of_punctuation (c := '.') (by decide))
  simp [sourceEnding] at hdot

/-- Different accepted names have their sources in different places. -/
theorem sourceNames_injective {name other : String} (h : sourceNames name = sourceNames other) :
    name = other := by
  obtain ⟨hpackage, hfile⟩ := List.append_inj' h rfl
  have hsimple : simple name = simple other := by
    have htext := congrArg String.toList (List.singleton_inj.mp hfile)
    simp only [String.toList_append, List.append_cancel_right_eq] at htext
    exact String.toList_inj.mp htext
  rw [← intercalate_segments name, ← intercalate_segments other, segments_eq name,
    segments_eq other, hpackage, hsimple]

/-- A path that ends with a name gets the next name after a slash. -/
theorem push_of_isName {text name part : String} (h : Path.IsName name)
    (hpart : Path.IsName part) :
    Path.push ⟨text ++ name⟩ part = ⟨text ++ name ++ "/" ++ part⟩ := by
  have hrelative : part.toList.head? ≠ some '/' := fun hhead =>
    hpart.no_slash (List.mem_of_mem_head? hhead)
  cases hlast : name.toList.getLast? with
  | none =>
    exact absurd (String.toList_eq_nil_iff.mp (List.getLast?_eq_none_iff.mp hlast)) h.ne_empty
  | some c =>
    have hc : c ≠ '/' := fun heq => h.no_slash (heq ▸ List.mem_of_getLast? hlast)
    have hend : (text ++ name).toList.getLast? = some c := by
      rw [String.toList_append, List.getLast?_append, hlast, Option.some_or]
    unfold Path.push
    rw [if_neg hrelative]
    simp only [hend]

/-- Names pushed one after the other onto a path that ends with a name are joined by slashes. -/
theorem foldl_push_of_isName {names : List String} (h : ∀ name ∈ names, Path.IsName name)
    {text name : String} (hname : Path.IsName name) :
    names.foldl Path.push ⟨text ++ name⟩ = ⟨text ++ String.intercalate "/" (name :: names)⟩ := by
  induction names generalizing text name with
  | nil => simp
  | cons part names ih =>
    obtain ⟨hpart, hnames⟩ := List.forall_mem_cons.mp h
    rw [List.foldl_cons, push_of_isName hname hpart, ih hnames hpart,
      String.intercalate_cons_cons]
    simp only [String.append_assoc]

/-- Names pushed onto the empty path are joined by slashes. -/
theorem foldl_push_empty {names : List String} (h : ∀ name ∈ names, Path.IsName name) :
    names.foldl Path.push ⟨""⟩ = ⟨String.intercalate "/" names⟩ := by
  cases names with
  | nil => rfl
  | cons name names =>
    obtain ⟨hname, hnames⟩ := List.forall_mem_cons.mp h
    have hfirst : Path.push ⟨""⟩ name = ⟨"" ++ name⟩ := by simp [Path.push]
    rw [List.foldl_cons, hfirst, foldl_push_of_isName hnames hname, String.empty_append]

/-- Names without dots, joined by dots, are the segments of the joined name. -/
theorem segments_intercalate {names : List String} (h : ∀ name ∈ names, '.' ∉ name.toList)
    (hne : names ≠ []) : segments (String.intercalate "." names) = names := by
  have hcut := @Text.segments_intercalate '.' (names.map String.toList)
    (by simpa using h) (by simpa using hne)
  rw [segments, String.toList_intercalate]
  change (Text.segments '.' (List.intercalate ['.'] _)).map _ = _
  rw [hcut]
  simp

/-- The path of the source of an accepted name has its names joined by slashes. -/
theorem sourcePath_eq {name : String} (h : isQualifiedIdentifier name = true) :
    sourcePath name = ⟨String.intercalate "/" (sourceNames name)⟩ := by
  have hnames : ∀ part ∈ sourceNames name, Path.IsName part :=
    fun part hmem => isName_of_mem_sourceNames h hmem
  have hdot : ∀ segment ∈ packageSegments name, '.' ∉ segment.toList := fun segment hmem =>
    not_mem_of_isIdentifier (isIdentifier_of_mem_packageSegments h hmem)
      (isIdentifierPart_eq_false_of_punctuation (by decide))
  rw [← foldl_push_empty hnames, sourceNames, List.foldl_append]
  unfold sourcePath
  rw [package?_eq h]
  by_cases hpackage : packageSegments name = []
  · simp [hpackage, sourceEnding]
  · simp [hpackage, segments_intercalate hdot hpackage, sourceEnding]

/-- Below any directory the source of an accepted name lies at its names. -/
theorem components_join_sourcePath (root : Path) {name : String}
    (h : isQualifiedIdentifier name = true) :
    (root.join (sourcePath name)).components =
      root.components ++ (sourceNames name).map .name := by
  rw [sourcePath_eq h]
  exact Path.components_join root (fun part hmem => isName_of_mem_sourceNames h hmem)
    (sourceNames_ne_nil name)

/-- Below one directory, different accepted names have different components. -/
theorem eq_of_components_join_sourcePath {root : Path} {name other : String}
    (hname : isQualifiedIdentifier name = true) (hother : isQualifiedIdentifier other = true)
    (h : (root.join (sourcePath name)).components =
      (root.join (sourcePath other)).components) : name = other := by
  rw [components_join_sourcePath root hname, components_join_sourcePath root hother] at h
  have hnames := List.append_cancel_left h
  refine sourceNames_injective ((List.map_inj_right fun first second heq => ?_).mp hnames)
  exact Path.Component.name.inj heq

end ToStringGen.Java.QualifiedName
