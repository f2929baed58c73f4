import ToStringGen.Java.QualifiedName

/-!
# The generated class

For a type with chosen fields, a subclass is written whose `toString()` shows the
class name and the fields in their order, as in `PointWithToString{x=1,y=2}`. The
text depends on the names alone.
-/

namespace ToStringGen.Java.Subclass

/-- What is appended to the name of a type to name its generated subclass. -/
def nameSuffix : String := "WithToString"

/-- The name of the method that the subclass overrides. -/
def methodName : String := "toString"

/-- The name of the subclass of a type. -/
def nameOf (typeName : String) : String :=
  typeName ++ nameSuffix

/-- The package clause, which a type of the unnamed package does without. -/
def packageClause (typeName : String) : String :=
  match QualifiedName.package? typeName with
  | none => ""
  | some package => "package " ++ package ++ ";\n\n"

/-- The operand that shows one field. -/
def fieldOperand (field : String) : String :=
  " + \"" ++ field ++ "=\" + this." ++ field

/-- The operands that show the fields, with a comma between neighbours. -/
def fieldOperands : List String → String
  | [] => ""
  | field :: fields =>
      fieldOperand field ++ String.join (fields.map fun next => " + \",\"" ++ fieldOperand next)

/-- The complete source text of the subclass. -/
def render (typeName : String) (fields : List String) : String :=
  let className := nameOf (QualifiedName.simple typeName)
  packageClause typeName ++
    "public class " ++ className ++ " extends " ++ typeName ++ " \x7b\n" ++
    "\tpublic String " ++ methodName ++ "() \x7b\n" ++
    "\t\treturn \"" ++ className ++ "\x7b\"" ++ fieldOperands fields ++ " + \"\x7d\";\n" ++
    "\t\x7d\n" ++
    "\x7d\n"

end ToStringGen.Java.Subclass
