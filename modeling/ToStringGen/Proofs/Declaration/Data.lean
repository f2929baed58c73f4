import ToStringGen.Declaration.Data
import ToStringGen.Proofs.Record

/-!
# Declarations read from data

A declaration is read from a record with its keys, each part from the value under its key.
Written declarations are read back in either format.
-/

namespace ToStringGen

variable {dialect : Datum.Dialect} {datum : Datum}

/-- A written text is read back. -/
@[simp] theorem Datum.text?_text (text : String) : text? (.text (some text)) = some text := rfl

/-- Lists are read back if their elements are. -/
theorem Datum.list?_map_of_readBack {α : Type} {decode : Datum → Option α} {toDatum : α → Datum}
    (h : ∀ value, decode (toDatum value) = some value) (values : List α) :
    list? decode (.list (values.map toDatum)) = some values := by
  refine list?_eq_some_iff.mpr ⟨_, rfl, ?_⟩
  rw [List.forall₂_map_left_iff]
  exact List.forall₂_same.mpr fun value _ => h value

/-- A written visibility is read back. -/
theorem Visibility.ofDatum?_toDatum (visibility : Visibility) :
    ofDatum? dialect visibility.toDatum = some visibility := by
  cases visibility <;> rfl

/-- A written storage class is read back. -/
theorem StorageClass.ofDatum?_toDatum (storage : StorageClass) :
    ofDatum? dialect storage.toDatum = some storage := by
  cases storage <;> rfl

namespace FieldDeclaration

/-- The keys of a field. -/
def keys : List String := ["name", "visibility", "storage"]

/-- A field is read part by part. -/
theorem ofDatum?_eq_some_iff {field : FieldDeclaration} :
    ofDatum? dialect datum = some field ↔
      datum.IsRecord dialect keys ∧
        Datum.required Datum.text? (datum.value? keys "name") = some field.name ∧
        Datum.optional (Visibility.ofDatum? dialect) .packageAccess
          (datum.value? keys "visibility") = some field.visibility ∧
        Datum.optional (StorageClass.ofDatum? dialect) .perInstance
          (datum.value? keys "storage") = some field.storage := by
  have hkeys : keys.Nodup := by decide
  obtain ⟨name, visibility, storage⟩ := field
  by_cases hrecord : datum.IsRecord dialect keys
  · have hvalues : Datum.record? dialect ["name", "visibility", "storage"] datum =
        some [datum.value? keys "name", datum.value? keys "visibility",
          datum.value? keys "storage"] :=
      (Datum.record?_eq_some_iff hkeys).mpr ⟨hrecord, rfl⟩
    simp [ofDatum?, hvalues, hrecord, Option.bind_eq_some_iff]
  · have hnone : Datum.record? dialect ["name", "visibility", "storage"] datum = none :=
      Datum.record?_eq_none hkeys hrecord
    simp [ofDatum?, hnone, hrecord]

/-- A written field is read back. -/
theorem ofDatum?_toDatum (field : FieldDeclaration) :
    ofDatum? dialect field.toDatum = some field := by
  have hvalues : Datum.record? dialect ["name", "visibility", "storage"] field.toDatum =
      some [some (.text (some field.name)), some field.visibility.toDatum,
        some field.storage.toDatum] := rfl
  simp [ofDatum?, hvalues, Datum.required, Datum.optional, Visibility.ofDatum?_toDatum,
    StorageClass.ofDatum?_toDatum]

end FieldDeclaration

namespace TypeDeclaration

/-- The keys of a declaration. -/
def keys : List String := ["qualified_name", "annotations", "fields", "methods"]

/-- A declaration is read part by part. -/
theorem ofDatum?_eq_some_iff {declaration : TypeDeclaration} :
    ofDatum? dialect datum = some declaration ↔
      datum.IsRecord dialect keys ∧
        Datum.required Datum.text? (datum.value? keys "qualified_name") =
          some declaration.qualifiedName ∧
        Datum.optional (Datum.list? Datum.text?) [] (datum.value? keys "annotations") =
          some declaration.annotations ∧
        Datum.optional (Datum.list? (FieldDeclaration.ofDatum? dialect)) []
          (datum.value? keys "fields") = some declaration.fields ∧
        Datum.optional (Datum.list? Datum.text?) [] (datum.value? keys "methods") =
          some declaration.methods := by
  have hkeys : keys.Nodup := by decide
  obtain ⟨qualifiedName, annotations, fields, methods⟩ := declaration
  by_cases hrecord : datum.IsRecord dialect keys
  · have hvalues : Datum.record? dialect ["qualified_name", "annotations", "fields", "methods"]
        datum = some [datum.value? keys "qualified_name", datum.value? keys "annotations",
          datum.value? keys "fields", datum.value? keys "methods"] :=
      (Datum.record?_eq_some_iff hkeys).mpr ⟨hrecord, rfl⟩
    simp [ofDatum?, hvalues, hrecord, Option.bind_eq_some_iff]
  · have hnone : Datum.record? dialect ["qualified_name", "annotations", "fields", "methods"]
        datum = none := Datum.record?_eq_none hkeys hrecord
    simp [ofDatum?, hnone, hrecord]

/-- A written declaration is read back. -/
theorem ofDatum?_toDatum (declaration : TypeDeclaration) :
    ofDatum? dialect declaration.toDatum = some declaration := by
  have hvalues : Datum.record? dialect ["qualified_name", "annotations", "fields", "methods"]
      declaration.toDatum =
        some [some (.text (some declaration.qualifiedName)),
          some (.list (declaration.annotations.map fun name => .text (some name))),
          some (.list (declaration.fields.map FieldDeclaration.toDatum)),
          some (.list (declaration.methods.map fun name => .text (some name)))] := rfl
  simp [ofDatum?, hvalues, Datum.required, Datum.optional,
    Datum.list?_map_of_readBack Datum.text?_text,
    Datum.list?_map_of_readBack FieldDeclaration.ofDatum?_toDatum]

end TypeDeclaration

end ToStringGen
