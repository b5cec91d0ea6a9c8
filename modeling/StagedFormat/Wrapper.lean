import StagedFormat.Config.Basic
import StagedFormat.Plan.Services

/-!
# The wrapper script

The build tool is started by a script at the root of the repository.
-/

set_option autoImplicit false

namespace StagedFormat

/-- Where the standard output of the build tool goes. -/
inductive ToolOutput
  | shared
  /-- To its standard error, so that the standard output stays free. -/
  | redirected
  deriving DecidableEq, Repr

structure Wrapper where
  name : String
  task : Task
  output : ToolOutput
  deriving DecidableEq, Repr

namespace Wrapper

def ofConfig (config : Config) (platform : Platform) (output : ToolOutput) : Wrapper :=
  ⟨config.wrapper.on platform, config.task, output⟩

def arguments (wrapper : Wrapper) (filesArgument : String) : List String :=
  (if wrapper.task.batch then ["-B"] else [])
    ++ wrapper.task.goal :: ("-D" ++ wrapper.task.property ++ "=" ++ filesArgument)
    :: wrapper.task.args

def commandLine (wrapper : Wrapper) (request : Request) : String :=
  " ".intercalate (request.wrapper.toText :: wrapper.arguments request.filesArgument)

def locate (wrapper : Wrapper) (host : Host) (root : Path) : Lookup :=
  let path := root.join (.ofText wrapper.name)
  if host.tree.isFile host.workdir path then .found path else .missing path

/-- The events by which the output of the build tool is seen. -/
def relay (wrapper : Wrapper) (completion : Completion) : Action Unit := do
  match wrapper.output with
  | .shared => Action.emit (.stdout completion.stdout)
  | .redirected => Action.emit (.stderr completion.stdout)
  Action.emit (.stderr completion.stderr)

/-- Runs the build tool.  Its exit code is 1 if a signal ended it. -/
def apply (wrapper : Wrapper) (host : Host) (request : Request) :
    Action (Except Trouble Int) := do
  Action.log (.debug (wrapper.commandLine request))
  match ← Action.start host
      ⟨request.wrapper, wrapper.arguments request.filesArgument, request.root⟩ with
  | .error error => pure (.error (.of error.message))
  | .ok completion =>
    wrapper.relay completion
    Action.log
      (.debug (request.wrapper.toText ++ " exited with " ++ completion.ending.text))
    pure (.ok (completion.ending.code?.getD 1))

end Wrapper

end StagedFormat
