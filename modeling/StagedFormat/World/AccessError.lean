/-!
# Why the system refuses

The ways in which reading or writing a file, or starting a program, can fail, with the words in
which the system reports them.
-/

set_option autoImplicit false

namespace StagedFormat

inductive SystemError
  | notFound
  | argumentsTooLong
  | permissionDenied
  | alreadyExists
  | notADirectory
  | isADirectory
  | nameTooLong
  /-- Any other error, by its number and its description. -/
  | other (code : Nat) (text : String)
  deriving DecidableEq, Repr

namespace SystemError

def number : SystemError → Nat
  | notFound => 2
  | argumentsTooLong => 7
  | permissionDenied => 13
  | alreadyExists => 17
  | notADirectory => 20
  | isADirectory => 21
  | nameTooLong => 36
  | other code _ => code

def description : SystemError → String
  | notFound => "No such file or directory"
  | argumentsTooLong => "Argument list too long"
  | permissionDenied => "Permission denied"
  | alreadyExists => "File exists"
  | notADirectory => "Not a directory"
  | isADirectory => "Is a directory"
  | nameTooLong => "File name too long"
  | other _ text => text

def message (error : SystemError) : String :=
  error.description ++ " (os error " ++ toString error.number ++ ")"

end SystemError

inductive AccessError
  | system (error : SystemError)
  /-- A path has a NUL byte, which no file name can have. -/
  | nulInPath
  /-- A program or one of its arguments has a NUL byte. -/
  | nulInArgument
  | notText
  deriving DecidableEq, Repr

namespace AccessError

def message : AccessError → String
  | system error => error.message
  | nulInPath => "file name contained an unexpected NUL byte"
  | nulInArgument => "nul byte found in provided data"
  | notText => "stream did not contain valid UTF-8"

end AccessError

end StagedFormat
