import ToStringGen.Declaration

/-!
# Requests and artifacts

A request names a class and the fields to be shown, at least one; its artifact is
the generated subclass with its name and complete source text.
-/

namespace ToStringGen

/-- A class and the fields chosen from it; without a field there is nothing to generate. -/
structure GenerationRequest where
  /-- The name of the class. -/
  qualifiedName : String
  /-- The fields to be shown, in order. -/
  fields : List FieldDeclaration
  /-- At least one field is shown. -/
  fields_ne_nil : fields ≠ []

/-- A generated class. -/
structure Artifact where
  qualifiedName : String
  /-- The complete source text. -/
  body : String
  deriving DecidableEq, Repr, Inhabited

namespace GenerationRequest

/-- The request for given fields, if there are any. -/
def of? (qualifiedName : String) (fields : List FieldDeclaration) : Option GenerationRequest :=
  if h : fields = [] then none else some { qualifiedName, fields, fields_ne_nil := h }

/-- The names of the fields to be shown. -/
def fieldNames (request : GenerationRequest) : List String :=
  request.fields.map FieldDeclaration.name

/-- The qualified name of the class to be generated. -/
def artifactName (request : GenerationRequest) : String :=
  Java.Subclass.nameOf request.qualifiedName

/-- The generated class. -/
def synthesize (request : GenerationRequest) : Artifact where
  qualifiedName := request.artifactName
  body := Java.Subclass.render request.qualifiedName request.fieldNames

end GenerationRequest

/-- The request for a declared class, if a field of it is to be shown. -/
def TypeDeclaration.request? (declaration : TypeDeclaration) : Option GenerationRequest :=
  GenerationRequest.of? declaration.qualifiedName declaration.eligibleFields

namespace Artifact

/-- The name without its package. -/
def simpleName (artifact : Artifact) : String :=
  Java.QualifiedName.simple artifact.qualifiedName

/-- The package, unless it is the unnamed one. -/
def package? (artifact : Artifact) : Option String :=
  Java.QualifiedName.package? artifact.qualifiedName

/-- The path of the source file, relative to the output directory. -/
def relativePath (artifact : Artifact) : Path :=
  Java.QualifiedName.sourcePath artifact.qualifiedName

end Artifact

end ToStringGen
