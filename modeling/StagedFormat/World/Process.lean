import StagedFormat.World.FileTree

/-!
# Starting other programs

A host has a file tree, a working directory and programs.  A start asks the host to run a program
with arguments in a directory.  It fails as the system lets it fail: the directory has to exist,
and the program has to be a file that may be run or, without a slash in its name, a command on the
search path.  Whether the system then takes the program, and what it does, is part of the host, and
may depend on all programs that were started before.
-/

set_option autoImplicit false

namespace StagedFormat

inductive Ending
  | exited (code : Int)
  | signalled (number : Nat) (name : String)
  deriving DecidableEq, Repr

namespace Ending

def code? : Ending → Option Int
  | exited code => some code
  | signalled _ _ => none

def isSuccess (ending : Ending) : Bool :=
  ending.code? == some 0

def text : Ending → String
  | exited code => "exit status: " ++ toString code
  | signalled number name => "signal: " ++ toString number ++ " (" ++ name ++ ")"

end Ending

structure Completion where
  ending : Ending
  stdout : List UInt8
  stderr : List UInt8
  deriving DecidableEq, Repr

structure Start where
  program : Path
  arguments : List String
  directory : Path
  deriving DecidableEq, Repr

inductive Program
  | command (name : Path)
  | file (place : Location)
  deriving DecidableEq, Repr

structure Started where
  program : Program
  arguments : List String
  directory : Location
  deriving DecidableEq, Repr

/-- A machine as a run sees it. -/
structure Host where
  tree : FileTree
  workdir : Location
  onSearchPath : Path → Bool
  /-- What becomes of a process behind those that were started before: what it does, or why the
  system does not let it run. -/
  perform : List Started → Started → Except SystemError Completion
  /-- The words in which a text is rejected that is no TOML document. -/
  rejection : List Char → String

namespace Host

def workdirPath (host : Host) : Path :=
  host.workdir.path

/-- The path of the working directory, which may have been removed. -/
def currentDirectory (host : Host) : Except AccessError Path :=
  if host.tree.look host.workdir = some .directory then .ok host.workdirPath
  else .error (.system .notFound)

def enter (host : Host) (directory : Path) : Except AccessError Location := do
  let place ← host.tree.find host.workdir directory
  match host.tree.look place with
  | none => .error (.system .notFound)
  | some (.file _ _) => .error (.system .notADirectory)
  | some .directory => .ok place

/-- The program of a given name, as seen from the directory it is to run in.  On the search path,
`.` and `..` are directories, which cannot be run. -/
def findProgram (host : Host) (directory : Location) (program : Path) :
    Except AccessError Program :=
  if program.bytes.contains Path.slash then do
    let place ← host.tree.find directory program
    match host.tree.look place with
    | none => .error (.system .notFound)
    | some .directory => .error (.system .permissionDenied)
    | some (.file _ mode) =>
      if host.tree.standing.mayRun mode then .ok (.file place)
      else .error (.system .permissionDenied)
  else if program.bytes = FileTree.sameName ∨ program.bytes = FileTree.parentName then
    .error (.system .permissionDenied)
  else if FileTree.longestName < program.bytes.length then .error (.system .nameTooLong)
  else if host.onSearchPath program then .ok (.command program)
  else .error (.system .notFound)

def hasNul (start : Start) : Bool :=
  start.program.bytes.contains 0 || start.directory.bytes.contains 0
    || start.arguments.any fun argument => argument.toList.contains '\x00'

def longestArgument : Nat := 131071

def hasLongArgument (start : Start) : Bool :=
  start.arguments.any fun argument => longestArgument < argument.utf8ByteSize

/-- The process that a wish asks for. -/
def resolve (host : Host) (wish : Start) : Except AccessError Started :=
  if hasNul wish then .error .nulInArgument
  else do
    let directory ← host.enter wish.directory
    let program ← host.findProgram directory wish.program
    if hasLongArgument wish then .error (.system .argumentsTooLong)
    else .ok ⟨program, wish.arguments, directory⟩

/-- Starts a program behind those of the past. -/
def start (host : Host) (past : List Started) (wish : Start) :
    Except AccessError (Started × Completion) := do
  let started ← host.resolve wish
  match host.perform past started with
  | .error error => .error (.system error)
  | .ok completion => .ok (started, completion)

end Host

end StagedFormat
