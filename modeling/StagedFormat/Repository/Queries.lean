import StagedFormat.Failure
import StagedFormat.Repository.Numstat
import StagedFormat.Text.Blank
import StagedFormat.World.Event

/-!
# Questions about the repository

Every question is one start of `git`; its output is the answer.
-/

set_option autoImplicit false

namespace StagedFormat.Repository

/-- The output of a program as text, without blanks at its ends. -/
def trimmed (output : List UInt8) : String :=
  String.ofList (Text.trim (Text.decodeLossy output))

def git (host : Host) (directory : Path) (arguments : List String) :
    Action (Except Trouble Completion) := do
  Action.log (.debug ("git " ++ " ".intercalate arguments ++ " (in " ++ directory.toText ++ ")"))
  match ← Action.start host ⟨.ofText "git", arguments, directory⟩ with
  | .error error => pure (.error (.of error.message))
  | .ok completion => pure (.ok completion)

def root (host : Host) (workdir : Path) : Action (Except Trouble Path) := do
  match ← git host workdir ["rev-parse", "--show-toplevel"] with
  | .error trouble => pure (.error trouble)
  | .ok completion =>
    if completion.ending.isSuccess then pure (.ok (.ofText (trimmed completion.stdout)))
    else pure (.error (.of (trimmed completion.stderr)))

/-- The directory of the hooks of the repository that a directory belongs to. -/
def hooksDirectory (host : Host) (workdir : Path) : Action (Except Trouble Path) := do
  match ← git host workdir ["rev-parse", "--git-path", "hooks"] with
  | .error trouble => pure (.error trouble)
  | .ok completion =>
    if completion.ending.isSuccess then
      pure (.ok (workdir.join (.ofText (trimmed completion.stdout))))
    else pure (.error (.of "Not a git repository"))

/-- Whether the staged changes of a file are more than whitespace.  If the comparison fails, they
are taken not to be. -/
def hasChanges (host : Host) (root : Path) (file : String) (whitespace : WhitespacePolicy) :
    Action (Except Trouble Bool) := do
  match ← git host root ["diff", "--cached", "--numstat", whitespace.flag, "--", file] with
  | .error trouble => pure (.error trouble)
  | .ok completion =>
    if completion.ending.isSuccess then
      pure (.ok (Numstat.hasChanges (Text.decodeLossy completion.stdout)))
    else
      Action.log (.warn ("git diff failed for " ++ file ++ ": " ++ trimmed completion.stderr))
      pure (.ok false)

end StagedFormat.Repository
