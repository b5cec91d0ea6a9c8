import StagedFormat.Failure
import StagedFormat.Hook.Section
import StagedFormat.World.Change

/-!
# Installing the hook

The hook for commits is a file in the directory of the hooks.  Installing writes the section into
it: into a new file, behind what is there, or in the place of an earlier section.
-/

set_option autoImplicit false

namespace StagedFormat.Hook

inductive Installation
  | created
  /-- The section now follows what was there. -/
  | appended
  | replaced
  /-- The hook was left as it is. -/
  | alreadyInstalled
  deriving DecidableEq, Repr

namespace Installation

def name : Installation → String
  | created => "Created"
  | appended => "Appended"
  | replaced => "Replaced"
  | alreadyInstalled => "AlreadyInstalled"

def message : Installation → String
  | created => "Installed pre-commit hook"
  | appended => "Added spotless-staged to existing pre-commit hook"
  | replaced => "Reinstalled pre-commit hook"
  | alreadyInstalled => "Pre-commit hook already installed (use --force to reinstall)"

end Installation

inductive InstallError
  /-- The glob cannot be written into a script. -/
  | unsupportedGlob (glob : String)
  | access (error : AccessError)
  deriving DecidableEq, Repr

def InstallError.message : InstallError → String
  | unsupportedGlob glob => "Unsupported glob for hook: " ++ Text.quote glob
  | access error => error.message

def file (directory : Path) : Path :=
  directory.join (.ofText "pre-commit")

def acceptsGlob (glob : List Char) : Bool :=
  !glob.isEmpty && !glob.contains '\x27'

def mentions (word : List Char) : List Char → Bool
  | [] => word.isEmpty
  | c :: rest => word.isPrefixOf (c :: rest) || mentions word rest

def withSection (text glob : List Char) : List Char :=
  Text.trimEnd text ++ '\n' :: '\n' :: sectionFor glob

def newHook (glob : List Char) : List Char :=
  header ++ sectionFor glob

/-- What becomes of the content of a hook, if there is a hook: what is done, and the new content
if there is one.  A hook that mentions this program without markers was written by hand. -/
def update (existing : Option (List Char)) (glob : List Char) (force : Bool) :
    Installation × Option (List Char) :=
  match existing with
  | none => (.created, some (newHook glob))
  | some content =>
    if mentions beginMarker content then
      if force then (.replaced, some (withSection (removeSection content) glob))
      else (.alreadyInstalled, none)
    else if mentions toolName content then
      if force then (.replaced, some (newHook glob)) else (.alreadyInstalled, none)
    else (.appended, some (withSection content glob))

def existing (tree : FileTree) (workdir : Location) (hook : Path) :
    Except AccessError (Option (List Char)) :=
  if tree.exists? workdir hook then (tree.readText workdir hook).map some else .ok none

def store (workdir : Location) (hook : Path) (content : List Char) : Change AccessError Unit := do
  Change.step (·.write workdir hook (Text.encode content))
  Change.step (·.setMode workdir hook executableMode)

/-- Installs the hook into a directory of hooks, which is made if it is missing. -/
def install (workdir : Location) (directory : Path) (glob : String) (force : Bool) :
    Change InstallError Installation :=
  if acceptsGlob glob.toList then
    EStateM.adaptExcept InstallError.access do
      Change.makeDirectories workdir directory
      match update (← ofExcept (existing (← get) workdir (file directory))) glob.toList force with
      | (installation, none) => pure installation
      | (installation, some content) =>
        store workdir (file directory) content
        pure installation
  else throw (.unsupportedGlob glob)

end StagedFormat.Hook
