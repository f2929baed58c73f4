import ToStringGen.Java.QualifiedName
import ToStringGen.Text.Alphabetic
import ToStringGen.Text.Numeric

/-!
# Identifiers

Types, packages and fields are named by identifiers: a letter, underscore or
dollar sign followed by letters, digits, underscores and dollar signs, but not a
word that the Java language reserves.
-/

namespace ToStringGen.Java

/-- The keywords and literals of Java, and the lone underscore: words that name nothing. -/
def reservedWords : List String :=
  ["_", "abstract", "assert", "boolean", "break", "byte", "case", "catch", "char", "class",
   "const", "continue", "default", "do", "double", "else", "enum", "extends", "false", "final",
   "finally", "float", "for", "goto", "if", "implements", "import", "instanceof", "int",
   "interface", "long", "native", "new", "null", "package", "private", "protected", "public",
   "return", "short", "static", "strictfp", "super", "switch", "synchronized", "this", "throw",
   "throws", "transient", "true", "try", "void", "volatile", "while"]

/-- The characters that can begin an identifier. -/
def isIdentifierStart (c : Char) : Bool :=
  Text.alphabetic.contains c || c == '_' || c == '$'

/-- The characters that can continue an identifier. -/
def isIdentifierPart (c : Char) : Bool :=
  Text.alphabetic.contains c || Text.numeric.contains c || c == '_' || c == '$'

/-- Whether a text is an identifier. -/
def isIdentifier (text : String) : Bool :=
  !reservedWords.contains text &&
    match text.toList with
    | [] => false
    | c :: rest => isIdentifierStart c && rest.all isIdentifierPart

/-- Whether a text is a sequence of identifiers joined by dots. -/
def isQualifiedIdentifier (text : String) : Bool :=
  (QualifiedName.segments text).all isIdentifier

end ToStringGen.Java
