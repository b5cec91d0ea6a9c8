import StagedFormat.FilesArgument.PassMode

/-!
# What a command line asks for

A command line asks for a run, for a page of help, or for nothing that can be done.
-/

set_option autoImplicit false

namespace StagedFormat.CommandLine

inductive Command
  | format (mode : Option PassMode) (dryRun : Bool) (files : List String)
  | installHook (force : Bool) (glob : String)
  deriving DecidableEq, Repr

/-- A run, as a command line asks for it. -/
structure Invocation where
  verbose : Bool
  json : Bool
  command : Command
  deriving DecidableEq, Repr

inductive Subject
  | program
  | installHook
  | help
  deriving DecidableEq, Repr

inductive Page
  | long
  | short
  | installHook
  | help
  | version
  deriving DecidableEq, Repr

inductive UsageError
  | unexpectedArgument (argument : String)
  | valueMissing (option : String)
  | invalidValue (value option reason : String)
  | unexpectedValue (value option : String)
  | repeated (option : String)
  /-- A value is not UTF-8. -/
  | notText
  | unknownCommand (name : String)
  deriving DecidableEq, Repr

/-- Why the reading of a command line ends before a run. -/
inductive Stop
  | show (page : Page)
  | refuse (error : UsageError)
  deriving DecidableEq, Repr

end StagedFormat.CommandLine
