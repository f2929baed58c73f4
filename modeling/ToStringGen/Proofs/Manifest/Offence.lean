import ToStringGen.Proofs.Java.Legality
import ToStringGen.Proofs.Java.Placement

/-!
# The first offence of a manifest

Validation reads a manifest once, with the names it has seen, and stops at the first
thing that is wrong. The main statement says the same without any reading: a manifest
is accepted when its names are spelt as they should be and are all different, and
otherwise the objection is the one to the offending type of the least index, and for
its fields to the offending field of the least index.
-/

namespace ToStringGen

namespace Java

/-- An identifier by its spelling: no word of the language, but a letter, an underscore or a dollar
sign, and after it such characters and numbers. -/
structure IsIdentifier (text : String) : Prop where
  not_keyword : text ∉ keywords
  not_literal : text ∉ literals
  spelling : ∃ first rest, text.toList = first :: rest ∧
    (Text.alphabetic.contains first = true ∨ first = '_' ∨ first = '$') ∧
    ∀ c ∈ rest, Text.alphabetic.contains c = true ∨ Text.numeric.contains c = true ∨
      c = '_' ∨ c = '$'

/-- One or more identifiers joined by single dots. -/
def IsQualifiedName (name : String) : Prop :=
  ∃ parts : List String, parts ≠ [] ∧ (∀ part ∈ parts, IsIdentifier part) ∧
    name = String.intercalate "." parts

/-- What validation takes for an identifier is spelt like one. -/
theorem isIdentifier_eq_true_iff {text : String} :
    isIdentifier text = true ↔ IsIdentifier text := by
  have hstart : ∀ c, isIdentifierStart c = true ↔
      Text.alphabetic.contains c = true ∨ c = '_' ∨ c = '$' := by
    intro c
    simp only [isIdentifierStart, Bool.or_eq_true, beq_iff_eq, or_assoc]
  have hpart : ∀ c, isIdentifierPart c = true ↔
      Text.alphabetic.contains c = true ∨ Text.numeric.contains c = true ∨
        c = '_' ∨ c = '$' := by
    intro c
    simp only [isIdentifierPart, Bool.or_eq_true, beq_iff_eq, or_assoc]
  rw [isIdentifier_iff, mem_reservedWords_iff, not_or]
  simp only [hstart, hpart]
  constructor
  · rintro ⟨⟨hkeyword, hliteral⟩, hspelling⟩
    exact ⟨hkeyword, hliteral, hspelling⟩
  · rintro ⟨hkeyword, hliteral, hspelling⟩
    exact ⟨⟨hkeyword, hliteral⟩, hspelling⟩

/-- What validation takes for a qualified name has identifiers joined by single dots: these are the
parts into which the name is cut. -/
theorem isQualifiedIdentifier_eq_true_iff {name : String} :
    isQualifiedIdentifier name = true ↔ IsQualifiedName name := by
  constructor
  · intro h
    refine ⟨QualifiedName.segments name, ?_, ?_, (QualifiedName.intercalate_segments name).symm⟩
    · rw [QualifiedName.segments_eq]
      exact List.append_ne_nil_of_right_ne_nil _ (List.cons_ne_nil _ _)
    · intro part hpart
      exact isIdentifier_eq_true_iff.mp (QualifiedName.isIdentifier_of_mem_segments h hpart)
  · rintro ⟨parts, hne, hparts, rfl⟩
    have hidentifiers : ∀ part ∈ parts, isIdentifier part = true := fun part hpart =>
      isIdentifier_eq_true_iff.mpr (hparts part hpart)
    have hdots : ∀ part ∈ parts, '.' ∉ part.toList := by
      intro part hpart
      apply not_mem_of_isIdentifier (hidentifiers part hpart)
      exact isIdentifierPart_eq_false_of_punctuation (by decide)
    rw [isQualifiedIdentifier, QualifiedName.segments_intercalate hdots hne]
    exact List.all_eq_true.mpr hidentifiers

end Java

namespace Manifest

open Java

/-- The objection to the member of a list that is the first to offend, by its index. Whether a
member offends may depend on those before it. -/
def FirstOffence {α : Type} (offends : List α → α → ManifestError → Prop) (members : List α)
    (objection : ManifestError) : Prop :=
  ∃ index member, members[index]? = some member ∧
    offends (members.take index) member objection ∧
    ∀ before < index, ∀ other, members[before]? = some other →
      ∀ another, ¬offends (members.take before) other another

/-- There is one thing wrong with a member at most. -/
def OneOffenceAtMost {α : Type} (offends : List α → α → ManifestError → Prop) : Prop :=
  ∀ earlier member one other,
    offends earlier member one → offends earlier member other → one = other

/-- What is wrong with a field after others of its type. -/
inductive FieldOffence (typeName : String) (earlier : List FieldDeclaration)
    (field : FieldDeclaration) : ManifestError → Prop
  | malformed (h : ¬IsIdentifier field.name) :
      FieldOffence typeName earlier field (.invalidFieldName typeName field.name)
  | repeated (hname : IsIdentifier field.name)
      (h : field.name ∈ earlier.map FieldDeclaration.name) :
      FieldOffence typeName earlier field (.duplicateField typeName field.name)

/-- What is wrong with a type after others. Only with a name of its own it offends by its
fields. -/
inductive TypeOffence (earlier : List TypeDeclaration) (declaration : TypeDeclaration) :
    ManifestError → Prop
  | malformed (h : ¬IsQualifiedName declaration.qualifiedName) :
      TypeOffence earlier declaration (.invalidTypeName declaration.qualifiedName)
  | repeated (hname : IsQualifiedName declaration.qualifiedName)
      (h : declaration.qualifiedName ∈ earlier.map TypeDeclaration.qualifiedName) :
      TypeOffence earlier declaration (.duplicateType declaration.qualifiedName)
  | field (hname : IsQualifiedName declaration.qualifiedName)
      (hnew : declaration.qualifiedName ∉ earlier.map TypeDeclaration.qualifiedName)
      {objection : ManifestError}
      (h : FirstOffence (FieldOffence declaration.qualifiedName) declaration.fields objection) :
      TypeOffence earlier declaration objection

/-- A manifest as it should be. -/
structure WellFormed (manifest : Manifest) : Prop where
  types_ne_nil : manifest.types ≠ []
  typeNames : ∀ declaration ∈ manifest.types, IsQualifiedName declaration.qualifiedName
  typeNames_nodup : (manifest.types.map TypeDeclaration.qualifiedName).Nodup
  fieldNames : ∀ declaration ∈ manifest.types, ∀ field ∈ declaration.fields,
    IsIdentifier field.name
  fieldNames_nodup : ∀ declaration ∈ manifest.types,
    (declaration.fields.map FieldDeclaration.name).Nodup

section FirstOffence

variable {α : Type} {offends : List α → α → ManifestError → Prop} {member : α}
  {members : List α} {objection : ManifestError}

/-- In an empty list nothing offends. -/
theorem not_firstOffence_nil : ¬FirstOffence offends [] objection := by
  rintro ⟨index, member, hmember, _⟩
  simp at hmember

/-- The first member of a list is the first to offend, or it does not offend and one of the others
is, seen after it. -/
theorem firstOffence_cons_iff :
    FirstOffence offends (member :: members) objection ↔
      offends [] member objection ∨ (∀ another, ¬offends [] member another) ∧
        FirstOffence (fun earlier => offends (member :: earlier)) members objection := by
  constructor
  · rintro ⟨index, found, hfound, hoffends, hfirst⟩
    cases index with
    | zero =>
      obtain rfl : member = found := Option.some.inj hfound
      exact Or.inl hoffends
    | succ index =>
      have hhead : ∀ another, ¬offends [] member another :=
        hfirst 0 (Nat.succ_pos index) member rfl
      refine Or.inr ⟨hhead, index, found, hfound, hoffends, ?_⟩
      intro before hbefore other hother
      exact hfirst (before + 1) (Nat.succ_lt_succ hbefore) other hother
  · rintro (hoffends | ⟨hhead, index, found, hfound, hoffends, hfirst⟩)
    · refine ⟨0, member, rfl, hoffends, ?_⟩
      intro before hbefore
      exact absurd hbefore (Nat.not_lt_zero before)
    · refine ⟨index + 1, found, hfound, hoffends, ?_⟩
      intro before hbefore other hother
      cases before with
      | zero =>
        obtain rfl : member = other := Option.some.inj hother
        exact hhead
      | succ before => exact hfirst before (Nat.lt_of_succ_lt_succ hbefore) other hother

/-- When there is one thing wrong with a member at most, there is one first offence at most. -/
theorem FirstOffence.unique (hunique : OneOffenceAtMost offends) {one other : ManifestError}
    (hone : FirstOffence offends members one) (hother : FirstOffence offends members other) :
    one = other := by
  obtain ⟨index, member, hmember, hoffends, hfirst⟩ := hone
  obtain ⟨index', member', hmember', hoffends', hfirst'⟩ := hother
  have hindex : index = index' := by
    by_contra hne
    rcases Nat.lt_or_gt_of_ne hne with hlt | hlt
    · exact hfirst' index hlt member hmember one hoffends
    · exact hfirst index' hlt member' hmember' other hoffends'
  subst hindex
  obtain rfl : member = member' := Option.some.inj (hmember.symm.trans hmember')
  exact hunique _ member one other hoffends hoffends'

/-- When the first member offends, the objection is the one to it. -/
theorem firstOffence_cons_of_offends (hunique : OneOffenceAtMost offends)
    {found : ManifestError} (h : offends [] member found) :
    FirstOffence offends (member :: members) objection ↔ found = objection := by
  rw [firstOffence_cons_iff]
  constructor
  · rintro (hoffends | ⟨hnone, _⟩)
    · exact hunique [] member found objection h hoffends
    · exact absurd h (hnone found)
  · rintro rfl
    exact Or.inl h

/-- When the first member does not offend, the objection is to one of the others. -/
theorem firstOffence_cons_of_forall_not (h : ∀ another, ¬offends [] member another) :
    FirstOffence offends (member :: members) objection ↔
      FirstOffence (fun earlier => offends (member :: earlier)) members objection := by
  rw [firstOffence_cons_iff]
  constructor
  · rintro (hoffends | ⟨_, hrest⟩)
    · exact absurd hoffends (h objection)
    · exact hrest
  · intro hrest
    exact Or.inr ⟨h, hrest⟩

end FirstOffence

/-- There is one thing wrong with a field at most. -/
theorem oneOffenceAtMost_field (typeName : String) :
    OneOffenceAtMost (FieldOffence typeName) := by
  intro earlier field one other hone hother
  cases hone with
  | malformed hbad =>
    cases hother with
    | malformed => rfl
    | repeated hgood => exact absurd hgood hbad
  | repeated hgood =>
    cases hother with
    | malformed hbad => exact absurd hgood hbad
    | repeated => rfl

/-- There is one thing wrong with a type at most. -/
theorem oneOffenceAtMost_type : OneOffenceAtMost TypeOffence := by
  intro earlier declaration one other hone hother
  cases hone with
  | malformed hbad =>
    cases hother with
    | malformed => rfl
    | repeated hgood => exact absurd hgood hbad
    | field hgood => exact absurd hgood hbad
  | repeated hgood hold =>
    cases hother with
    | malformed hbad => exact absurd hgood hbad
    | repeated => rfl
    | field _ hnew => exact absurd hold hnew
  | field hgood hnew hfirst =>
    cases hother with
    | malformed hbad => exact absurd hgood hbad
    | repeated _ hold => exact absurd hold hnew
    | field _ _ hfirst' => exact hfirst.unique (oneOffenceAtMost_field _) hfirst'

/-- Names that have been seen are those of the members before, and one more is seen with each
member. -/
theorem mem_cons_iff_mem_map_concat {α : Type} {nameOf : α → String} {seen : List String}
    {earlier : List α} (hseen : ∀ name, name ∈ seen ↔ name ∈ earlier.map nameOf) (member : α)
    (name : String) :
    name ∈ nameOf member :: seen ↔ name ∈ (earlier ++ [member]).map nameOf := by
  rw [List.mem_cons, hseen, List.map_append, List.mem_append, List.map_singleton,
    List.mem_singleton, or_comm]

/-- Checking fields stops at the first one that offends. The names seen before are those of fields
before, whatever their order. -/
theorem checkFields_eq_error_iff {typeName : String} {seen : List String}
    (earlier : List FieldDeclaration) {fields : List FieldDeclaration} {objection : ManifestError}
    (hseen : ∀ name, name ∈ seen ↔ name ∈ earlier.map FieldDeclaration.name) :
    checkFields typeName seen fields = .error objection ↔
      FirstOffence (fun before => FieldOffence typeName (earlier ++ before)) fields objection := by
  induction fields generalizing seen earlier with
  | nil =>
    rw [checkFields]
    exact iff_of_false (by simp) not_firstOffence_nil
  | cons field fields ih =>
    have hunique : OneOffenceAtMost fun before => FieldOffence typeName (earlier ++ before) :=
      fun before => oneOffenceAtMost_field typeName (earlier ++ before)
    rw [checkFields]
    by_cases hname : isIdentifier field.name = true
    · have hgood := isIdentifier_eq_true_iff.mp hname
      by_cases hold : field.name ∈ seen
      · have hoffends : FieldOffence typeName (earlier ++ []) field
            (.duplicateField typeName field.name) := by
          rw [List.append_nil]
          exact .repeated hgood ((hseen _).mp hold)
        rw [if_neg (by simp [hname]), if_pos (by simpa using hold),
          firstOffence_cons_of_offends hunique hoffends, Except.error.injEq]
      · have hnone : ∀ another, ¬FieldOffence typeName (earlier ++ []) field another := by
          rw [List.append_nil]
          rintro another (hbad | ⟨_, hmem⟩)
          · exact hbad hgood
          · exact hold ((hseen _).mpr hmem)
        rw [if_neg (by simp [hname]), if_neg (by simpa using hold),
          firstOffence_cons_of_forall_not hnone,
          ih (earlier ++ [field]) (mem_cons_iff_mem_map_concat hseen field)]
        simp only [List.append_assoc, List.singleton_append]
    · have hoffends : FieldOffence typeName (earlier ++ []) field
          (.invalidFieldName typeName field.name) := by
        apply FieldOffence.malformed
        rwa [← isIdentifier_eq_true_iff]
      rw [if_pos (by simpa using hname), firstOffence_cons_of_offends hunique hoffends,
        Except.error.injEq]

/-- Checking declarations stops at the first type that offends. -/
theorem checkTypes_eq_error_iff {seen : List String} (earlier : List TypeDeclaration)
    {declarations : List TypeDeclaration} {objection : ManifestError}
    (hseen : ∀ name, name ∈ seen ↔ name ∈ earlier.map TypeDeclaration.qualifiedName) :
    checkTypes seen declarations = .error objection ↔
      FirstOffence (fun before => TypeOffence (earlier ++ before)) declarations objection := by
  induction declarations generalizing seen earlier with
  | nil =>
    rw [checkTypes]
    exact iff_of_false (by simp) not_firstOffence_nil
  | cons declaration declarations ih =>
    have hfields : ∀ another,
        checkFields declaration.qualifiedName [] declaration.fields = .error another ↔
          FirstOffence (FieldOffence declaration.qualifiedName) declaration.fields another :=
      fun another => checkFields_eq_error_iff [] (by simp)
    have hunique : OneOffenceAtMost fun before => TypeOffence (earlier ++ before) :=
      fun before => oneOffenceAtMost_type (earlier ++ before)
    rw [checkTypes]
    by_cases hname : isQualifiedIdentifier declaration.qualifiedName = true
    · have hgood := isQualifiedIdentifier_eq_true_iff.mp hname
      by_cases hold : declaration.qualifiedName ∈ seen
      · have hoffends : TypeOffence (earlier ++ []) declaration
            (.duplicateType declaration.qualifiedName) := by
          rw [List.append_nil]
          exact .repeated hgood ((hseen _).mp hold)
        rw [if_neg (by simp [hname]), if_pos (by simpa using hold),
          firstOffence_cons_of_offends hunique hoffends, Except.error.injEq]
      · have hnew : declaration.qualifiedName ∉ earlier.map TypeDeclaration.qualifiedName :=
          fun hmem => hold ((hseen _).mpr hmem)
        rw [if_neg (by simp [hname]), if_neg (by simpa using hold)]
        cases hcheck : checkFields declaration.qualifiedName [] declaration.fields with
        | error found =>
          have hoffends : TypeOffence (earlier ++ []) declaration found := by
            rw [List.append_nil]
            exact .field hgood hnew ((hfields found).mp hcheck)
          rw [firstOffence_cons_of_offends hunique hoffends, Except.error.injEq]
        | ok =>
          have hnone : ∀ another, ¬TypeOffence (earlier ++ []) declaration another := by
            rw [List.append_nil]
            rintro another (hbad | ⟨_, hmem⟩ | ⟨_, _, hfirst⟩)
            · exact hbad hgood
            · exact hnew hmem
            · have hfails := (hfields another).mpr hfirst
              rw [hcheck] at hfails
              cases hfails
          rw [firstOffence_cons_of_forall_not hnone,
            ih (earlier ++ [declaration]) (mem_cons_iff_mem_map_concat hseen declaration)]
          simp only [List.append_assoc, List.singleton_append]
    · have hoffends : TypeOffence (earlier ++ []) declaration
          (.invalidTypeName declaration.qualifiedName) := by
        apply TypeOffence.malformed
        rwa [← isQualifiedIdentifier_eq_true_iff]
      rw [if_pos (by simpa using hname), firstOffence_cons_of_offends hunique hoffends,
        Except.error.injEq]

/-- Validation accepts exactly the manifests that are as they should be. It objects to one without
types, and to any other by the first offence. -/
theorem validate_names_first_offence (manifest : Manifest) :
    (manifest.validate = .ok () ↔ manifest.WellFormed) ∧
      ∀ objection, manifest.validate = .error objection ↔
        manifest.types = [] ∧ objection = .noTypes ∨
          FirstOffence TypeOffence manifest.types objection := by
  constructor
  · rw [validate_eq_ok_iff]
    constructor
    · rintro ⟨hne, hwell, hnodup⟩
      refine ⟨hne, ?_, hnodup, ?_, ?_⟩
      · intro declaration hmem
        exact isQualifiedIdentifier_eq_true_iff.mp (hwell declaration hmem).name
      · intro declaration hmem field hfield
        exact isIdentifier_eq_true_iff.mp ((hwell declaration hmem).fields field hfield)
      · intro declaration hmem
        exact (hwell declaration hmem).nodup
    · rintro ⟨hne, htypes, hnodup, hfields, hdistinct⟩
      refine ⟨hne, ?_, hnodup⟩
      intro declaration hmem
      constructor
      · exact isQualifiedIdentifier_eq_true_iff.mpr (htypes declaration hmem)
      · intro field hfield
        exact isIdentifier_eq_true_iff.mpr (hfields declaration hmem field hfield)
      · exact hdistinct declaration hmem
  · intro objection
    rw [validate]
    by_cases hempty : manifest.types = []
    · rw [hempty, List.isEmpty_nil, if_pos rfl, Except.error.injEq]
      constructor
      · rintro rfl
        exact Or.inl ⟨rfl, rfl⟩
      · rintro (⟨_, rfl⟩ | hfirst)
        · rfl
        · exact absurd hfirst not_firstOffence_nil
    · rw [if_neg (by simpa using hempty), checkTypes_eq_error_iff [] (by simp)]
      constructor
      · exact Or.inr
      · rintro (⟨htypes, _⟩ | hfirst)
        · exact absurd htypes hempty
        · exact hfirst

/-- A name that is taken comes before the fields, and before the types that follow. -/
example :
    validate { types := [{ qualifiedName := "p.A" },
      { qualifiedName := "p.A", fields := [{ name := "1" }] }, { qualifiedName := "p." }] } =
      .error (.duplicateType "p.A") := by
  decide +kernel

end Manifest

end ToStringGen
