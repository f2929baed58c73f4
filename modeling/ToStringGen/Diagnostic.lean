/-!
# Diagnostics

What the generator tells the build that called it: a warning about a type that it
leaves alone, an error about a file that it could not write. A collection keeps
every diagnostic; a tally only counts them.
-/

namespace ToStringGen

/-- How serious a diagnostic is. -/
inductive Severity where
  | warning
  | error
  deriving DecidableEq, Repr, Inhabited

/-- The wording of a severity. -/
def Severity.label : Severity → String
  | warning => "WARNING"
  | error => "ERROR"

/-- A message to the build. -/
structure Diagnostic where
  severity : Severity
  /-- The type or file that the message is about. -/
  subject : String
  message : String
  deriving DecidableEq, Repr, Inhabited

namespace Diagnostic

/-- A warning. -/
def warning (subject message : String) : Diagnostic :=
  { severity := .warning, subject, message }

/-- An error. -/
def error (subject message : String) : Diagnostic :=
  { severity := .error, subject, message }

/-- The warning about a type that already has a `toString()`. -/
def alreadyOverridden (typeName : String) : Diagnostic :=
  warning typeName
    ("The method toString() is already overridden in the " ++ typeName ++ ". Ignoring it.")

/-- Whether the diagnostic makes the build fail. -/
def isError (diagnostic : Diagnostic) : Bool :=
  diagnostic.severity == .error

/-- The diagnostic as one line. -/
def text (diagnostic : Diagnostic) : String :=
  diagnostic.severity.label ++ ": " ++ diagnostic.message

end Diagnostic

/-- Every diagnostic since the last drain, in the order of the reports. -/
structure Collection where
  diagnostics : List Diagnostic := []
  deriving DecidableEq, Repr, Inhabited

namespace Collection

/-- Keeps a diagnostic. -/
def report (collection : Collection) (diagnostic : Diagnostic) : Collection :=
  { diagnostics := collection.diagnostics ++ [diagnostic] }

/-- The diagnostics of one severity. -/
def withSeverity (collection : Collection) (severity : Severity) : List Diagnostic :=
  collection.diagnostics.filter fun diagnostic => diagnostic.severity == severity

/-- Whether any diagnostic is an error. -/
def hasErrors (collection : Collection) : Bool :=
  collection.diagnostics.any Diagnostic.isError

/-- Whether nothing is kept. -/
def isEmpty (collection : Collection) : Bool :=
  collection.diagnostics.isEmpty

/-- Takes every diagnostic out. -/
def drain (collection : Collection) : List Diagnostic × Collection :=
  (collection.diagnostics, {})

end Collection

/-- The numbers of warnings and of errors reported. -/
structure Tally where
  warnings : Nat := 0
  errors : Nat := 0
  deriving DecidableEq, Repr, Inhabited

namespace Tally

/-- Counts a diagnostic. -/
def report (tally : Tally) (diagnostic : Diagnostic) : Tally :=
  match diagnostic.severity with
  | .warning => { tally with warnings := tally.warnings + 1 }
  | .error => { tally with errors := tally.errors + 1 }

/-- Counts several diagnostics. -/
def reportAll (tally : Tally) (diagnostics : List Diagnostic) : Tally :=
  diagnostics.foldl report tally

/-- Whether an error has been counted. -/
def hasErrors (tally : Tally) : Bool :=
  0 < tally.errors

end Tally

end ToStringGen
