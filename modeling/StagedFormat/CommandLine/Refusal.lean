import StagedFormat.CommandLine.Help

/-!
# What is said about a wrong command line

The text about a usage error has the error, in some cases a tip and how the command is used, and
at its end where to find help.
-/

set_option autoImplicit false

namespace StagedFormat.CommandLine

def faulty (text : String) : String :=
  Terminal.Style.invalid.apply text

namespace UsageError

def message : UsageError → String
  | unexpectedArgument argument => "unexpected argument '" ++ faulty argument ++ "' found"
  | valueMissing option =>
    "a value is required for '" ++ faulty option ++ "' but none was supplied"
  | invalidValue value option reason =>
    "invalid value '" ++ faulty value ++ "' for '" ++ literal option ++ "': " ++ reason
  | unexpectedValue value option =>
    "unexpected value '" ++ faulty value ++ "' for '" ++ literal option
      ++ "' found; no more were expected"
  | repeated option => "the argument '" ++ faulty option ++ "' cannot be used multiple times"
  | notText => "invalid UTF-8 was detected in one or more arguments"
  | unknownCommand name => "unrecognized subcommand '" ++ faulty name ++ "'"

/-- What may be done about the error: what looks like an option can be passed as a file. -/
def tips (subject : Subject) : UsageError → List String
  | unexpectedArgument argument =>
    if subject = .program then
      ["", "  " ++ Terminal.Style.valid.apply "tip:" ++ " to pass '" ++ faulty argument
        ++ "' as a value, use '" ++ Terminal.Style.valid.apply ("-- " ++ argument) ++ "'"]
    else []
  | _ => []

def usage (subject : Subject) : UsageError → List String
  | valueMissing _ | invalidValue _ _ _ => []
  | unexpectedValue _ option => ["", subject.usageWith option]
  | _ => "" :: subject.usage

def text (subject : Subject) (error : UsageError) : String :=
  "\n".intercalate
    ([Terminal.Style.error.apply "error:" ++ " " ++ error.message] ++ error.tips subject
      ++ error.usage subject
      ++ ["", "For more information, try '" ++ literal "--help" ++ "'.", ""])

end UsageError

end StagedFormat.CommandLine
