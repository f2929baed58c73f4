import ToStringGen.Command.Check
import ToStringGen.Log.Filter

/-!
# Running a command

The outcome of a command line: an exit code, what is printed, the events that
pass the filter of the log, and the report about a failure.
-/

namespace ToStringGen.Command

open Log (Event)

/-- What a finished command leaves. -/
structure Completion where
  /-- Zero for success, two for a command line that makes no sense, and one for any other
  failure. -/
  exitCode : Nat := 0
  /-- What is printed. -/
  output : String := ""
  /-- The events that are logged. -/
  logged : List Event := []
  /-- The report about a failure. -/
  complaint : Option String := none
  deriving DecidableEq, Repr, Inhabited

/-- The name of the program and its version. -/
def versionText : String := "withtostring 0.3.0\n"

/-- How the program is used. -/
def helpText : String :=
  "toString() generator for annotated Java types\n\n" ++
    "Usage: withtostring <COMMAND>\n\n" ++
    "Commands:\n" ++
    "  generate  Generate sources for annotated declarations\n" ++
    "  check     Validate a declaration manifest\n" ++
    "  help      Print this message\n"

/-- The complaint about a command line that makes no sense. -/
def misuseText : String :=
  "error: the command line could not be understood\n\n" ++
    "Usage: withtostring <COMMAND>\n"

/-- What a transcript leaves when the log is filtered by given directives. Before the level of
the log is known nothing is logged. -/
def Transcript.completion (transcript : Transcript) (directives : Option String) : Completion where
  exitCode := if transcript.failure.isSome then 1 else 0
  output := transcript.output
  logged :=
    match transcript.logLevel with
    | none => []
    | some level => transcript.events.filter (Log.Filter.choose directives level).admits
  complaint := transcript.failure.map Failure.report

variable {Handle : Type} {m : Type → Type} [Monad m] [Volume Handle m]
  [MonadStateOf (Directory Handle) m]

/-- Runs a command line. -/
def run (directives : Option String) (arguments : List String) : m Completion := do
  match Invocation.parse arguments with
  | .generate options => return (← generate options).completion directives
  | .check options => return (← check options).completion directives
  | .showVersion => return { output := versionText }
  | .showHelp => return { output := helpText }
  | .misuse => return { exitCode := 2, complaint := some misuseText }

end ToStringGen.Command
