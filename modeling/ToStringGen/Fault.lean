/-!
# Faults of the file system

Why a file could not be read, created, written or removed, and the failure to
produce one artifact that follows from it.
-/

namespace ToStringGen

/-- A failure that the operating system reports. -/
inductive SystemError where
  | notFound
  | permissionDenied
  | alreadyExists
  | notDirectory
  | isDirectory
  | noSpace
  | nameTooLong
  | tooManyLinks
  /-- Any other, by its number and wording. -/
  | unlisted (code : Nat) (text : String)
  deriving DecidableEq, Repr, Inhabited

namespace SystemError

/-- The number of an error. -/
def code : SystemError → Nat
  | notFound => 2
  | permissionDenied => 13
  | alreadyExists => 17
  | notDirectory => 20
  | isDirectory => 21
  | noSpace => 28
  | nameTooLong => 36
  | tooManyLinks => 40
  | unlisted code _ => code

/-- The wording of an error. -/
def text : SystemError → String
  | notFound => "No such file or directory"
  | permissionDenied => "Permission denied"
  | alreadyExists => "File exists"
  | notDirectory => "Not a directory"
  | isDirectory => "Is a directory"
  | noSpace => "No space left on device"
  | nameTooLong => "File name too long"
  | tooManyLinks => "Too many levels of symbolic links"
  | unlisted _ text => text

/-- The error with a number; the wording is used if the number is not a known one. -/
def ofCode (code : Nat) (text : String) : SystemError :=
  match code with
  | 2 => notFound
  | 13 => permissionDenied
  | 17 => alreadyExists
  | 20 => notDirectory
  | 21 => isDirectory
  | 28 => noSpace
  | 36 => nameTooLong
  | 40 => tooManyLinks
  | code => unlisted code text

/-- The number of an error is the one it was found by. -/
theorem code_ofCode (code : Nat) (text : String) : (ofCode code text).code = code := by
  unfold ofCode
  split <;> rfl

end SystemError

/-- Why an operation on a file failed. -/
inductive Fault where
  | system (error : SystemError)
  /-- A write accepted nothing of what was left to write. -/
  | nothingAccepted
  /-- A path holds the character that ends texts in the operating system. -/
  | nulInPath
  /-- A file that should hold text holds something else. -/
  | notText
  /-- A destination has its own reason. -/
  | other (reason : String)
  deriving DecidableEq, Repr, Inhabited

namespace Fault

/-- The wording of a fault. -/
def message : Fault → String
  | system error => error.text ++ " (os error " ++ toString error.code ++ ")"
  | nothingAccepted => "failed to write whole buffer"
  | nulInPath => "file name contained an unexpected NUL byte"
  | notText => "stream did not contain valid UTF-8"
  | other reason => reason

end Fault

/-- The failure to produce one artifact. It concerns that artifact alone. -/
inductive GenerationError where
  /-- The file could not be created. -/
  | create (file : String) (cause : Fault)
  /-- The file was created but its contents could not be written. -/
  | write (file : String) (cause : Fault)
  deriving DecidableEq, Repr, Inhabited

namespace GenerationError

/-- The file that the failure is about. -/
def file : GenerationError → String
  | create file _ => file
  | write file _ => file

/-- The wording of a failure. -/
def message : GenerationError → String
  | create file cause => "Failed to create the file " ++ file ++ ": " ++ cause.message
  | write file cause => "Failed to write to the file " ++ file ++ ": " ++ cause.message

end GenerationError

end ToStringGen
