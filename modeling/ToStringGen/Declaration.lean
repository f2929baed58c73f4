import ToStringGen.Java.Subclass

/-!
# Declarations

What is known of an annotated class: its name, annotations, fields and methods,
in the order of declaration. From it follows which fields its generated
`toString()` shows and whether one is generated at all.
-/

namespace ToStringGen

/-- Who may use a field. -/
inductive Visibility where
  | publicAccess
  | protectedAccess
  /-- No modifier: visible within the declaring package. -/
  | packageAccess
  | privateAccess
  deriving DecidableEq, Repr, Inhabited

/-- The wording of a visibility. -/
def Visibility.label : Visibility → String
  | publicAccess => "public"
  | protectedAccess => "protected"
  | packageAccess => "package-private"
  | privateAccess => "private"

/-- Whether each object has the field or the class has it once. -/
inductive StorageClass where
  | perInstance
  | static
  deriving DecidableEq, Repr, Inhabited

/-- A field declared directly on a class. -/
structure FieldDeclaration where
  name : String
  visibility : Visibility := .packageAccess
  storage : StorageClass := .perInstance
  deriving DecidableEq, Repr, Inhabited

namespace FieldDeclaration

/-- A public field of each object. -/
def ofPublic (name : String) : FieldDeclaration :=
  { name, visibility := .publicAccess }

/-- A field is shown if every object has it and it is not private. -/
def isEligible (field : FieldDeclaration) : Bool :=
  field.storage == .perInstance && field.visibility != .privateAccess

end FieldDeclaration

/-- A class declaration. -/
structure TypeDeclaration where
  /-- The name with its package. -/
  qualifiedName : String
  /-- The annotations, each by its simple or its qualified name. -/
  annotations : List String := []
  fields : List FieldDeclaration := []
  /-- The names of the methods declared on the class itself, inherited ones excluded. -/
  methods : List String := []
  deriving DecidableEq, Repr, Inhabited

namespace TypeDeclaration

/-- Adds an annotation. -/
def withAnnotation (declaration : TypeDeclaration) (name : String) : TypeDeclaration :=
  { declaration with annotations := declaration.annotations ++ [name] }

/-- Adds a field. -/
def withField (declaration : TypeDeclaration) (field : FieldDeclaration) : TypeDeclaration :=
  { declaration with fields := declaration.fields ++ [field] }

/-- Adds a method. -/
def withMethod (declaration : TypeDeclaration) (method : String) : TypeDeclaration :=
  { declaration with methods := declaration.methods ++ [method] }

/-- The name without its package. -/
def simpleName (declaration : TypeDeclaration) : String :=
  Java.QualifiedName.simple declaration.qualifiedName

/-- The package, unless it is the unnamed one. -/
def package? (declaration : TypeDeclaration) : Option String :=
  Java.QualifiedName.package? declaration.qualifiedName

/-- Whether a method of this name is declared on the class itself. -/
def declares (declaration : TypeDeclaration) (method : String) : Bool :=
  declaration.methods.contains method

/-- Whether the class carries a marker annotation. An imported annotation is written without its
package, so the simple name of the marker counts as well. -/
def isAnnotatedWith (declaration : TypeDeclaration) (marker : String) : Bool :=
  declaration.annotations.any fun name =>
    name == marker || name == Java.QualifiedName.simple marker

/-- Whether the class has a `toString()` of its own, which is left alone. -/
def overridesToString (declaration : TypeDeclaration) : Bool :=
  declaration.declares Java.Subclass.methodName

/-- The fields to be shown, in the order of declaration. -/
def eligibleFields (declaration : TypeDeclaration) : List FieldDeclaration :=
  declaration.fields.filter FieldDeclaration.isEligible

end TypeDeclaration

end ToStringGen
