import Mathlib.Data.List.Basic
import ToStringGen.Manifest

/-!
# Accepted manifests

Validation stops at the first offence. That it finds none says of the manifest as a
whole that it lists a type, that all names in it are well formed, and that no type
and no field of a type is listed twice.
-/

namespace ToStringGen

/-- A declaration whose names are well formed and whose fields have different names. -/
structure TypeDeclaration.WellFormed (declaration : TypeDeclaration) : Prop where
  name : Java.isQualifiedIdentifier declaration.qualifiedName = true
  fields : ∀ field ∈ declaration.fields, Java.isIdentifier field.name = true
  nodup : (declaration.fields.map FieldDeclaration.name).Nodup

namespace Manifest

/-- One more name to keep clear of is one that nobody has. -/
theorem forall_not_mem_cons_iff {α : Type} {holds : α → Prop} {nameOf : α → String}
    {name : String} {seen : List String} {members : List α} :
    (∀ member ∈ members, holds member ∧ nameOf member ∉ name :: seen) ↔
      (∀ member ∈ members, holds member ∧ nameOf member ∉ seen) ∧
        name ∉ members.map nameOf := by
  simp only [List.mem_cons, not_or, List.mem_map, not_exists, not_and]
  constructor
  · exact fun h => ⟨fun member hmem => ⟨(h member hmem).1, (h member hmem).2.2⟩,
      fun member hmem => (h member hmem).2.1⟩
  · exact fun ⟨h, hnew⟩ member hmem => ⟨(h member hmem).1, hnew member hmem, (h member hmem).2⟩

/-- Fields pass when they are identifiers, different from each other and from those before. -/
theorem checkFields_eq_ok_iff {typeName : String} {seen : List String}
    {fields : List FieldDeclaration} :
    checkFields typeName seen fields = .ok () ↔
      (∀ field ∈ fields, Java.isIdentifier field.name = true ∧ field.name ∉ seen) ∧
        (fields.map FieldDeclaration.name).Nodup := by
  induction fields generalizing seen with
  | nil => simp [checkFields]
  | cons field fields ih =>
    rw [checkFields]
    by_cases hname : Java.isIdentifier field.name = true
    · by_cases hseen : field.name ∈ seen
      · simp [hname, hseen]
      · rw [if_neg (by simp [hname]), if_neg (by simp [hseen]), ih]
        rw [forall_not_mem_cons_iff, List.forall_mem_cons, List.map_cons, List.nodup_cons]
        simp only [hname, hseen, not_false_eq_true, and_self, true_and, and_assoc]
    · simp [hname]

/-- Declarations pass when they are well formed and their names are different from each other
and from those before. -/
theorem checkTypes_eq_ok_iff {seen : List String} {declarations : List TypeDeclaration} :
    checkTypes seen declarations = .ok () ↔
      (∀ declaration ∈ declarations,
        declaration.WellFormed ∧ declaration.qualifiedName ∉ seen) ∧
        (declarations.map TypeDeclaration.qualifiedName).Nodup := by
  induction declarations generalizing seen with
  | nil => simp [checkTypes]
  | cons declaration declarations ih =>
    have hfields := @checkFields_eq_ok_iff declaration.qualifiedName []
      declaration.fields
    have hwell : declaration.WellFormed ↔
        Java.isQualifiedIdentifier declaration.qualifiedName = true ∧
          checkFields declaration.qualifiedName [] declaration.fields = .ok () := by
      rw [hfields]
      simp only [List.not_mem_nil, not_false_eq_true, and_true]
      exact ⟨fun h => ⟨h.name, h.fields, h.nodup⟩, fun h => ⟨h.1, h.2.1, h.2.2⟩⟩
    rw [checkTypes]
    by_cases hname : Java.isQualifiedIdentifier declaration.qualifiedName = true
    · by_cases hseen : declaration.qualifiedName ∈ seen
      · simp [hname, hseen]
      · rw [if_neg (by simp [hname]), if_neg (by simp [hseen])]
        cases hcheck : checkFields declaration.qualifiedName [] declaration.fields with
        | error offence => simp [hwell, hcheck]
        | ok =>
          simp only
          rw [ih, forall_not_mem_cons_iff, List.forall_mem_cons, List.map_cons, List.nodup_cons]
          simp only [hwell, hname, hcheck, hseen, not_false_eq_true, and_self, true_and, and_assoc]
    · simp [hwell, hname]

/-- What validation accepts: at least one type, well-formed declarations, and every type listed
once. -/
theorem validate_eq_ok_iff {manifest : Manifest} :
    manifest.validate = .ok () ↔
      manifest.types ≠ [] ∧ (∀ declaration ∈ manifest.types, declaration.WellFormed) ∧
        (manifest.types.map TypeDeclaration.qualifiedName).Nodup := by
  rw [validate]
  split
  · next hempty => simp [List.isEmpty_iff.mp hempty]
  · next hempty =>
    rw [checkTypes_eq_ok_iff]
    simp [List.isEmpty_iff.not.mp hempty]

end Manifest

end ToStringGen
