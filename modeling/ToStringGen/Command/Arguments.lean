import ToStringGen.Path

/-!
# Command lines

The program has two commands, `generate` and `check`, each with options of its
own. An option may be given once; options that need a value take it from the
same argument or from the next one.
-/

namespace ToStringGen.Command

/-- The options of `generate`. -/
structure GenerateOptions where
  /-- The manifest to be read. -/
  manifest : Path
  /-- The output directory, in place of that of the settings. -/
  output : Option Path := none
  /-- The marker, in place of that of the settings. -/
  marker : Option String := none
  /-- The settings file. -/
  config : Option Path := none
  /-- Whether the generated sources are shown instead of being written. -/
  dryRun : Bool := false
  /-- The log level, in place of that of the settings. -/
  logLevel : Option String := none
  deriving DecidableEq, Repr, Inhabited

/-- The options of `check`. -/
structure CheckOptions where
  /-- The manifest to be read. -/
  manifest : Path
  /-- The marker, in place of that of the settings. -/
  marker : Option String := none
  /-- The settings file. -/
  config : Option Path := none
  deriving DecidableEq, Repr, Inhabited

/-- What a command line asks for. -/
inductive Invocation where
  | generate (options : GenerateOptions)
  | check (options : CheckOptions)
  | showVersion
  | showHelp
  /-- The command line makes no sense. -/
  | misuse
  deriving DecidableEq, Repr

/-- What an option takes. -/
inductive Kind where
  | flag
  | text
  /-- A path, which cannot be empty. -/
  | path
  deriving DecidableEq, Repr

/-- An option that a command knows. -/
structure Spec where
  name : String
  letter : Option Char := none
  kind : Kind := .text
  deriving DecidableEq, Repr

/-- The options that `generate` knows. -/
def generateSpecs : List Spec :=
  [{ name := "manifest", letter := some 'm', kind := .path },
   { name := "output", letter := some 'o', kind := .path },
   { name := "marker" },
   { name := "config", letter := some 'c', kind := .path },
   { name := "dry-run", kind := .flag },
   { name := "log-level" }]

/-- The options that `check` knows. -/
def checkSpecs : List Spec :=
  [{ name := "manifest", letter := some 'm', kind := .path },
   { name := "marker" },
   { name := "config", letter := some 'c', kind := .path }]

/-- The options given so far, each with its value. -/
abbrev Given := List (String × String)

/-- Why reading stops before the end of a command line. -/
inductive Stop where
  | help
  | misuse
  deriving DecidableEq, Repr

/-- Notes an option with its value. It must not be given already, and a path must not be empty. -/
def note (spec : Spec) (value : String) (given : Given) : Except Stop Given :=
  if (given.lookup spec.name).isSome || (spec.kind == .path && value.isEmpty) then .error .misuse
  else .ok ((spec.name, value) :: given)

/-- Whether an argument can be the value of the option before it: it is a lone hyphen or begins
with none. -/
def isValue (argument : String) : Bool :=
  argument == "-" || argument.toList.head? != some '-'

/-- The option that an argument names, with a value given in the same argument, or an order to
stop. -/
def option? (specs : List Spec) (argument : String) : Except Stop (Spec × Option String) :=
  match argument.toList with
  | '-' :: '-' :: rest =>
      let name := String.ofList (rest.takeWhile (· != '='))
      let value : Option String :=
        match rest.dropWhile (· != '=') with
        | _ :: value => some (String.ofList value)
        | [] => none
      match specs.find? fun spec => spec.name == name with
      | some spec => .ok (spec, value)
      | none => if name = "help" ∧ value = none then .error .help else .error .misuse
  | '-' :: letter :: rest =>
      let value : Option String :=
        match rest with
        | [] => none
        | '=' :: value => some (String.ofList value)
        | value => some (String.ofList value)
      match specs.find? fun spec => spec.letter == some letter with
      | some spec => .ok (spec, value)
      | none => if letter = 'h' then .error .help else .error .misuse
  | _ => .error .misuse

/-- Reads the arguments of a command. -/
def readOptions (specs : List Spec) (given : Given) : List String → Except Stop Given
  | [] => .ok given
  | ["--"] => .ok given
  | argument :: rest =>
      match option? specs argument with
      | .error stop => .error stop
      | .ok (spec, value) =>
          match spec.kind, value, rest with
          | .flag, none, rest =>
              match note spec "" given with
              | .error stop => .error stop
              | .ok given => readOptions specs given rest
          | .flag, some _, _ => .error .misuse
          | _, some value, rest =>
              match note spec value given with
              | .error stop => .error stop
              | .ok given => readOptions specs given rest
          | _, none, [] => .error .misuse
          | _, none, value :: rest =>
              if !isValue value then .error .misuse
              else
                match note spec value given with
                | .error stop => .error stop
                | .ok given => readOptions specs given rest

/-- Turns an order to stop into what the command line asks for. -/
def Stop.invocation : Stop → Invocation
  | help => .showHelp
  | misuse => .misuse

/-- What the arguments of `generate` ask for. -/
def parseGenerate (arguments : List String) : Invocation :=
  match readOptions generateSpecs [] arguments with
  | .error stop => stop.invocation
  | .ok given =>
      match given.lookup "manifest" with
      | none => .misuse
      | some manifest =>
          .generate
            { manifest := ⟨manifest⟩
              output := (given.lookup "output").map Path.mk
              marker := given.lookup "marker"
              config := (given.lookup "config").map Path.mk
              dryRun := (given.lookup "dry-run").isSome
              logLevel := given.lookup "log-level" }

/-- What the arguments of `check` ask for. -/
def parseCheck (arguments : List String) : Invocation :=
  match readOptions checkSpecs [] arguments with
  | .error stop => stop.invocation
  | .ok given =>
      match given.lookup "manifest" with
      | none => .misuse
      | some manifest =>
          .check
            { manifest := ⟨manifest⟩
              marker := given.lookup "marker"
              config := (given.lookup "config").map Path.mk }

/-- What a command line asks for. -/
def Invocation.parse : List String → Invocation
  | [] => .misuse
  | "generate" :: arguments => parseGenerate arguments
  | "check" :: arguments => parseCheck arguments
  | "help" :: arguments =>
      if arguments = [] ∨ arguments = ["generate"] ∨ arguments = ["check"] ∨ arguments = ["help"] then
        .showHelp
      else .misuse
  | "--version" :: _ => .showVersion
  | "--help" :: _ => .showHelp
  | argument :: _ =>
      match argument.toList with
      | '-' :: 'V' :: _ => .showVersion
      | '-' :: 'h' :: _ => .showHelp
      | _ => .misuse

end ToStringGen.Command
