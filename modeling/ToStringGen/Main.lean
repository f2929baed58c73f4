import ToStringGen.Command

/-!
# The program

The command line on the machine: files are those of the operating system, results
go to the standard output, and the log and failures to the standard error.
-/

namespace ToStringGen

/-- The number of a system error. Some actions report it negated, in 32 bits. -/
def errorNumber (code : UInt32) : Nat :=
  if code.toNat < 0x80000000 then code.toNat else 0x100000000 - code.toNat

/-- The fault that an exception of the operating system stands for. -/
def Fault.ofException : IO.Error → Fault
  | .alreadyExists _ code text
  | .otherError code text
  | .resourceBusy code text
  | .resourceVanished code text
  | .unsupportedOperation code text
  | .hardwareFault code text
  | .unsatisfiedConstraints code text
  | .illegalOperation code text
  | .protocolError code text
  | .timeExpired code text
  | .interrupted _ code text
  | .noFileOrDirectory _ code text
  | .invalidArgument _ code text
  | .permissionDenied _ code text
  | .resourceExhausted _ code text
  | .inappropriateType _ code text
  | .noSuchThing _ code text => .system (.ofCode (errorNumber code) text)
  | .unexpectedEof => .other "unexpected end of file"
  | .userError text => .other text

/-- The state of the program: the output directory that is being filled. -/
abbrev Program := StateT (Directory IO.FS.Handle) IO

namespace Program

/-- An action on the files of the machine, with its fault if it fails. -/
def attempt {α : Type} (action : IO α) : Program (Except Fault α) := do
  match ← action.toBaseIO with
  | .ok value => return .ok value
  | .error exception => return .error (.ofException exception)

/-- An action on the file at a path; no path holds the character that ends texts in the operating
system. -/
def attemptAt {α : Type} (path : Path) (action : String → IO α) : Program (Except Fault α) :=
  if path.text.toList.contains '\x00' then return .error .nulInPath
  else attempt (action path.text)

/-- Whether a path leads to something of a kind. -/
def isKind (kind : IO.FS.FileType → Bool) (path : Path) : Program Bool := do
  let found ← attemptAt path fun text => do
    let place ← IO.FS.realPath text
    return kind (← place.metadata).type
  return found.toOption == some true

instance : Volume IO.FS.Handle Program where
  isFile := isKind (· == .file)
  isDirectory := isKind (· == .dir)
  read path := attemptAt path fun text => do
    return (← IO.FS.readBinFile text).toList
  makeDirectory path := attemptAt path fun text => IO.FS.createDir text
  create path := attemptAt path fun text => IO.FS.Handle.mk text .write
  append handle bytes := attempt do
    handle.write ⟨bytes.toArray⟩
    handle.flush
  remove path := attemptAt path fun text => IO.FS.removeFile text

end Program

/-- Runs a command line on the machine. -/
def runOnMachine (arguments : List String) : IO UInt32 := do
  let directives ← IO.getEnv "RUST_LOG"
  let command : Program Command.Completion := Command.run directives arguments
  let (completion, _) ← command.run { root := ⟨""⟩ }
  for event in completion.logged do
    IO.eprintln event.line
  IO.print completion.output
  match completion.complaint with
  | none => pure ()
  | some complaint => IO.eprintln complaint
  return completion.exitCode.toUInt32

end ToStringGen

/-- The entry point. -/
def main (arguments : List String) : IO UInt32 :=
  ToStringGen.runOnMachine arguments
