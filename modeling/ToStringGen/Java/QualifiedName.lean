import ToStringGen.Path

/-!
# Qualified names

A qualified name is a package and a simple name joined by a dot. The source file
of a type lies at the path that its package spells.
-/

namespace ToStringGen.Java.QualifiedName

/-- Everything after the last dot. -/
def simple (name : String) : String :=
  match Text.lastCut? '.' name.toList with
  | some (_, after) => String.ofList after
  | none => name

/-- Everything before the last dot, unless that is nothing: then the type is in the unnamed
package. -/
def package? (name : String) : Option String :=
  match Text.lastCut? '.' name.toList with
  | some ([], _) => none
  | some (before, _) => some (String.ofList before)
  | none => none

/-- The parts between the dots. -/
def segments (name : String) : List String :=
  (Text.segments '.' name.toList).map String.ofList

/-- The path of the source file of a type, relative to the root of its package. -/
def sourcePath (name : String) : Path :=
  let folder : Path :=
    match package? name with
    | none => ⟨""⟩
    | some package => (segments package).foldl Path.push ⟨""⟩
  folder.push (simple name ++ ".java")

end ToStringGen.Java.QualifiedName
