import ToStringGen.Declaration.Data
import ToStringGen.Discovery
import ToStringGen.Fault
import ToStringGen.Java.Identifier
import ToStringGen.Text.Quoted
import ToStringGen.Toml

/-!
# Manifests

A manifest lists the declarations that the generator is to see. It is well formed
when it lists at least one type, all names are identifiers, and no type and no
field within a type is listed twice; the first offence is reported.
-/

namespace ToStringGen

/-- A list of declarations. -/
structure Manifest where
  types : List TypeDeclaration := []
  deriving DecidableEq, Repr, Inhabited

/-- Why a manifest cannot be used. -/
inductive ManifestError where
  /-- The file could not be read. -/
  | io (path : Path) (fault : Fault)
  /-- The text is not TOML, or not the TOML form of a manifest. -/
  | parse
  | noTypes
  | invalidTypeName (name : String)
  | invalidFieldName (typeName field : String)
  | duplicateType (name : String)
  | duplicateField (typeName field : String)
  deriving DecidableEq, Repr

/-- The reason given for a text that is no manifest. -/
def notAManifest : String := "the text is not a list of declarations"

/-- The wording of the objection to a manifest. -/
def ManifestError.message : ManifestError → String
  | io path fault => "Failed to read manifest " ++ path.text ++ ": " ++ fault.message
  | parse => "Failed to parse manifest: " ++ notAManifest
  | noTypes => "Manifest declares no types"
  | invalidTypeName name => "Invalid type name: " ++ Text.Quoted.quote Text.Quoted.name name
  | invalidFieldName typeName field =>
      "Invalid field name " ++ Text.Quoted.quote Text.Quoted.name field ++ " in " ++ typeName
  | duplicateType name => "Duplicate type: " ++ name
  | duplicateField typeName field => "Duplicate field " ++ field ++ " in " ++ typeName

namespace Manifest

/-- Reads a manifest from data. -/
def ofDatum? (dialect : Datum.Dialect) (datum : Datum) : Option Manifest :=
  match Datum.record? dialect ["types"] datum with
  | some [types] => do
      let types ← Datum.optional (Datum.list? (TypeDeclaration.ofDatum? dialect)) [] types
      return { types }
  | _ => none

/-- The written form of a manifest. -/
def toDatum (manifest : Manifest) : Datum :=
  .table [(some "types", .list (manifest.types.map TypeDeclaration.toDatum))]

/-- Reads a manifest from a TOML text. -/
def ofToml (text : String) : Except ManifestError Manifest :=
  match (Toml.parse? text).bind (ofDatum? Datum.toml) with
  | none => .error .parse
  | some manifest => .ok manifest

/-- Checks the fields of a type, after the fields named in `seen`. -/
def checkFields (typeName : String) (seen : List String) :
    List FieldDeclaration → Except ManifestError Unit
  | [] => .ok ()
  | field :: fields =>
      if !Java.isIdentifier field.name then .error (.invalidFieldName typeName field.name)
      else if seen.contains field.name then .error (.duplicateField typeName field.name)
      else checkFields typeName (field.name :: seen) fields

/-- Checks declarations, after the types named in `seen`. -/
def checkTypes (seen : List String) : List TypeDeclaration → Except ManifestError Unit
  | [] => .ok ()
  | declaration :: declarations =>
      let name := declaration.qualifiedName
      if !Java.isQualifiedIdentifier name then .error (.invalidTypeName name)
      else if seen.contains name then .error (.duplicateType name)
      else
        match checkFields name [] declaration.fields with
        | .error offence => .error offence
        | .ok () => checkTypes (name :: seen) declarations

/-- Accepts a well-formed manifest, or names the first offence. -/
def validate (manifest : Manifest) : Except ManifestError Unit :=
  if manifest.types.isEmpty then .error .noTypes else checkTypes [] manifest.types

/-- The source that hands out each declaration once. -/
def pool (manifest : Manifest) : Pool :=
  Pool.ofList manifest.types

end Manifest

end ToStringGen
