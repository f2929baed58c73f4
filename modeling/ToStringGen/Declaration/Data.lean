import ToStringGen.Datum
import ToStringGen.Declaration

/-!
# Declarations as data

The form of declarations in data files: a table with one key for each part, of
which only the name is required. Written declarations hold every key.
-/

namespace ToStringGen

open Datum (Dialect)

namespace Visibility

/-- The names of the visibilities; `package` is an alternative spelling. -/
def variants : List (String × Visibility) :=
  [("public", publicAccess), ("protected", protectedAccess), ("package_private", packageAccess),
   ("package", packageAccess), ("private", privateAccess)]

/-- Reads a visibility. -/
def ofDatum? (dialect : Dialect) : Datum → Option Visibility :=
  Datum.variant? dialect variants

/-- The written form of a visibility. -/
def toDatum : Visibility → Datum
  | publicAccess => .text (some "public")
  | protectedAccess => .text (some "protected")
  | packageAccess => .text (some "package_private")
  | privateAccess => .text (some "private")

end Visibility

namespace StorageClass

/-- The names of the storage classes. -/
def variants : List (String × StorageClass) :=
  [("instance", perInstance), ("static", static)]

/-- Reads a storage class. -/
def ofDatum? (dialect : Dialect) : Datum → Option StorageClass :=
  Datum.variant? dialect variants

/-- The written form of a storage class. -/
def toDatum : StorageClass → Datum
  | perInstance => .text (some "instance")
  | static => .text (some "static")

end StorageClass

namespace FieldDeclaration

/-- Reads a field. -/
def ofDatum? (dialect : Dialect) (datum : Datum) : Option FieldDeclaration :=
  match Datum.record? dialect ["name", "visibility", "storage"] datum with
  | some [name, visibility, storage] => do
      let name ← Datum.required Datum.text? name
      let visibility ← Datum.optional (Visibility.ofDatum? dialect) .packageAccess visibility
      let storage ← Datum.optional (StorageClass.ofDatum? dialect) .perInstance storage
      return { name, visibility, storage }
  | _ => none

/-- The written form of a field. -/
def toDatum (field : FieldDeclaration) : Datum :=
  .table
    [(some "name", .text (some field.name)),
     (some "visibility", field.visibility.toDatum),
     (some "storage", field.storage.toDatum)]

end FieldDeclaration

namespace TypeDeclaration

/-- Reads a declaration. -/
def ofDatum? (dialect : Dialect) (datum : Datum) : Option TypeDeclaration :=
  match Datum.record? dialect ["qualified_name", "annotations", "fields", "methods"] datum with
  | some [qualifiedName, annotations, fields, methods] => do
      let qualifiedName ← Datum.required Datum.text? qualifiedName
      let annotations ← Datum.optional (Datum.list? Datum.text?) [] annotations
      let fields ← Datum.optional (Datum.list? (FieldDeclaration.ofDatum? dialect)) [] fields
      let methods ← Datum.optional (Datum.list? Datum.text?) [] methods
      return { qualifiedName, annotations, fields, methods }
  | _ => none

/-- The written form of a declaration. -/
def toDatum (declaration : TypeDeclaration) : Datum :=
  .table
    [(some "qualified_name", .text (some declaration.qualifiedName)),
     (some "annotations", .list (declaration.annotations.map fun name => .text (some name))),
     (some "fields", .list (declaration.fields.map FieldDeclaration.toDatum)),
     (some "methods", .list (declaration.methods.map fun name => .text (some name)))]

end TypeDeclaration

end ToStringGen
