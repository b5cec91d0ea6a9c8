import StagedFormat.CommandLine.Basic

/-!
# Options

The program itself and the command that installs the hook have options of their own.  A few they
share: verbosity, the form of the output, and help.
-/

set_option autoImplicit false

namespace StagedFormat.CommandLine

inductive Switch
  | verbose
  | json
  | dryRun
  | force
  deriving DecidableEq, Repr

inductive Setting
  | mode
  | glob
  deriving DecidableEq, Repr

inductive Effect
  | turnOn (switch : Switch)
  | set (setting : Setting)
  /-- Shows a page, which may depend on whether the long or the short name was used. -/
  | help (byLongName byShortName : Page)
  deriving DecidableEq, Repr

structure CommandOption where
  long : String
  short : Option Char
  effect : Effect
  deriving DecidableEq, Repr

def CommandOption.display (option : CommandOption) : String :=
  match option.effect with
  | .set .mode => "--" ++ option.long ++ " <MODE>"
  | .set .glob => "--" ++ option.long ++ " <GLOB>"
  | _ => "--" ++ option.long

structure Grammar where
  options : List CommandOption
  takesFiles : Bool

namespace Grammar

def verbose : CommandOption := ⟨"verbose", some 'v', .turnOn .verbose⟩

def json : CommandOption := ⟨"json", none, .turnOn .json⟩

def program : Grammar where
  options :=
    [verbose, json, ⟨"mode", none, .set .mode⟩, ⟨"dry-run", none, .turnOn .dryRun⟩,
      ⟨"help", some 'h', .help .long .short⟩, ⟨"version", some 'V', .help .version .version⟩]
  takesFiles := true

def installHook : Grammar where
  options :=
    [⟨"force", some 'f', .turnOn .force⟩, ⟨"glob", none, .set .glob⟩, verbose, json,
      ⟨"help", some 'h', .help .installHook .installHook⟩]
  takesFiles := false

def findLong? (grammar : Grammar) (name : String) : Option CommandOption :=
  grammar.options.find? fun option => option.long == name

def findShort? (grammar : Grammar) (name : Char) : Option CommandOption :=
  grammar.options.find? fun option => option.short == some name

end Grammar

end StagedFormat.CommandLine
