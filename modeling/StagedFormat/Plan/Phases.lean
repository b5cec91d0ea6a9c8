import StagedFormat.Config.Settings
import StagedFormat.Plan.Services

/-!
# Making plans and executing them

A run has two phases.  `plan` looks for the wrapper script and sorts the candidates out, and starts
nothing; `execute` hands all qualifying files to the build tool at once.  The wrapper script is
looked for before any file is examined.
-/

set_option autoImplicit false

namespace StagedFormat

inductive Outcome
  | nothingToFormat
  | formatted (files : Nat)
  deriving DecidableEq, Repr

namespace Plan

variable {m : Type → Type} [Monad m]

/-- Asks for the root of the repository.  Without an answer, there is no repository. -/
def resolveRoot (ask : m (Except Trouble Path)) : m (Except Failure Path) := do
  match ← ask with
  | .ok root => pure (.ok root)
  | .error trouble => pure (.error (.notARepository trouble.chain))

/-- Adds one candidate to a selection.  A file that cannot be examined is skipped. -/
def consider (services : Services m) (settings : Settings) (root : Path) (selection : Selection)
    (file : String) : m Selection := do
  if settings.includes file then
    match ← services.hasChanges root file settings.whitespace with
    | .ok true => pure (selection.keep file)
    | .ok false => pure (selection.skip file .whitespaceOnly)
    | .error trouble =>
      services.log (.warn ("could not diff " ++ file ++ ": " ++ trouble.chain))
      pure (selection.skip file .whitespaceOnly)
  else
    services.log (.debug (file ++ " excluded by include patterns"))
    pure (selection.skip file .notIncluded)

def select (services : Services m) (settings : Settings) (root : Path) (files : List String) :
    m Selection :=
  files.foldlM (consider services settings root) {}

def make (services : Services m) (settings : Settings) (root : Path) (files : List String) :
    m (Except Failure Plan) := do
  if files.isEmpty then pure (.error .noFiles)
  else
    match ← services.locateWrapper root with
    | .missing expected => pure (.error (.wrapperMissing expected))
    | .found wrapper =>
      let selection ← select services settings root files
      pure (.ok { root, wrapper, mode := settings.mode, selection })

def execute (services : Services m) (settings : Settings) (plan : Plan) :
    m (Except Failure Outcome) := do
  match plan.request? with
  | none => pure (.ok .nothingToFormat)
  | some request =>
    match ← services.apply request with
    | .error trouble => pure (.error (.notStarted request.wrapper trouble.chain))
    | .ok code =>
      if code = 0 then pure (.ok (.formatted plan.selection.qualifying.length))
      else pure (.error (.toolFailed settings.goal code))

end Plan

end StagedFormat
