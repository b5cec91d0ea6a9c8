import StagedFormat.Failure
import StagedFormat.Plan.Basic
import StagedFormat.World.Event

/-!
# What planning and executing rely on

Plans are made and executed through services: questions about the repository, and requests to the
build tool.  Services answer in some monad.  An `Oracle` answers from a state that it may change
with every answer; `Services.recorded` turns it into services that also keep a list of the calls.
-/

set_option autoImplicit false

namespace StagedFormat

/-- Where the wrapper script is, or where it should have been. -/
inductive Lookup
  | found (wrapper : Path)
  | missing (expected : Path)
  deriving DecidableEq, Repr

/-- The questions and requests of a run. -/
structure Services (m : Type → Type) where
  repositoryRoot : m (Except Trouble Path)
  hasChanges : Path → String → WhitespacePolicy → m (Except Trouble Bool)
  locateWrapper : Path → m Lookup
  apply : Request → m (Except Trouble Int)
  log : LogRecord → m Unit

/-- A call of a service other than leaving a note. -/
inductive ServiceCall
  | repositoryRoot
  | locateWrapper (root : Path)
  | hasChanges (root : Path) (file : String) (whitespace : WhitespacePolicy)
  | apply (request : Request)
  deriving DecidableEq, Repr

/-- Answers to all calls, which may depend on the calls before. -/
structure Oracle (σ : Type) where
  repositoryRoot : σ → Except Trouble Path × σ
  hasChanges : Path → String → WhitespacePolicy → σ → Except Trouble Bool × σ
  locateWrapper : Path → σ → Lookup × σ
  apply : Request → σ → Except Trouble Int × σ

/-- The state of an oracle with what has been asked of it. -/
structure Recording (σ : Type) where
  state : σ
  calls : List ServiceCall := []
  notes : List LogRecord := []

namespace Recording

variable {σ α : Type}

def answer (call : ServiceCall) (reply : σ → α × σ) : StateM (Recording σ) α := fun recording =>
  let (value, state) := reply recording.state
  (value, { recording with state, calls := recording.calls ++ [call] })

def note (entry : LogRecord) : StateM (Recording σ) Unit := fun recording =>
  ((), { recording with notes := recording.notes ++ [entry] })

end Recording

def Services.recorded {σ : Type} (oracle : Oracle σ) : Services (StateM (Recording σ)) where
  repositoryRoot := Recording.answer .repositoryRoot oracle.repositoryRoot
  hasChanges root file whitespace :=
    Recording.answer (.hasChanges root file whitespace) (oracle.hasChanges root file whitespace)
  locateWrapper root := Recording.answer (.locateWrapper root) (oracle.locateWrapper root)
  apply request := Recording.answer (.apply request) (oracle.apply request)
  log := Recording.note

end StagedFormat
