import StagedFormat.Failure
import StagedFormat.Toml.Document
import StagedFormat.World.Event

/-!
# Loading a configuration

A configuration is read from a text or from the file at the root of a repository.  Without the
file, everything has its default.
-/

set_option autoImplicit false

namespace StagedFormat.Config

/-- What is wrong with a document that describes no configuration. -/
def problem (table : Toml.Table) (error : ShapeError) : ConfigProblem :=
  if Toml.entriesInRange table then .shape error else .beyondRange error

/-- Reads a configuration, where `rejection` words what is wrong with a text that is no TOML
document. -/
def parse (rejection : List Char → String) (text : List Char) : Except Failure Config :=
  match Toml.document? text with
  | none => .error (.configuration (.malformed (rejection text)))
  | some table =>
    match ofTable table with
    | .error error => .error (.configuration (problem table error))
    | .ok config => .ok config

def load (host : Host) (root : Path) : Action (Except Failure Config) :=
  if host.tree.exists? host.workdir (file root) then
    match host.tree.readText host.workdir (file root) with
    | .error error => pure (.error (.configuration (.unreadable (file root) error)))
    | .ok text => pure (parse host.rejection text)
  else do
    Action.log (.debug ("no " ++ fileName ++ " at " ++ root.toText ++ ", using defaults"))
    pure (.ok {})

end StagedFormat.Config
