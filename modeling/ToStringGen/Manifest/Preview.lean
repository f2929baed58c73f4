import ToStringGen.Artifact
import ToStringGen.Manifest

/-!
# Previews

What the generator would do with each declaration of a manifest, decided without
writing anything and described in one line each.
-/

namespace ToStringGen

/-- What would be done with a declaration. -/
inductive Decision where
  | notAnnotated
  | alreadyOverridden
  | noEligibleFields
  /-- A class of this name would be generated, showing these fields. -/
  | generate (artifact : String) (fields : List String)
  deriving DecidableEq, Repr, Inhabited

/-- Decides what would be done with a declaration. -/
def TypeDeclaration.decision (declaration : TypeDeclaration) (marker : String) : Decision :=
  if !declaration.isAnnotatedWith marker then .notAnnotated
  else if declaration.overridesToString then .alreadyOverridden
  else
    match declaration.request? with
    | none => .noEligibleFields
    | some request => .generate request.artifactName request.fieldNames

/-- The line about a declaration of a given name. -/
def Decision.line (typeName : String) : Decision → String
  | notAnnotated => "  - " ++ typeName ++ " (not annotated)\n"
  | alreadyOverridden => "  ! " ++ typeName ++ " (toString() already overridden, skipped)\n"
  | noEligibleFields => "  - " ++ typeName ++ " (no eligible fields, skipped)\n"
  | generate artifact fields =>
      "  + " ++ typeName ++ " -> " ++ artifact ++ " [" ++ String.intercalate ", " fields ++ "]\n"

/-- One line for each declaration, in order. -/
def Manifest.describe (manifest : Manifest) (marker : String) : String :=
  String.join (manifest.types.map fun declaration =>
    (declaration.decision marker).line declaration.qualifiedName)

end ToStringGen
