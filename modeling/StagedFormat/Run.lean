import StagedFormat.CommandLine.Parse
import StagedFormat.CommandLine.Refusal
import StagedFormat.Config.Load
import StagedFormat.Hook.Install
import StagedFormat.Plan.Phases
import StagedFormat.Report.Narration
import StagedFormat.Repository.Queries
import StagedFormat.Wrapper

/-!
# Runs

A run formats files or installs the hook.  Everything that it reads of the machine comes from a
host, and everything that it does is an event; what remains at its end is an exit status and the
file tree.
-/

set_option autoImplicit false

namespace StagedFormat

structure Machine where
  host : Host
  /-- Which of its two names the wrapper script has.  Paths, permission bits, signals and exit codes
  are those of Unix on either platform. -/
  platform : Platform
  colored : Bool

def Host.services (host : Host) (wrapper : Wrapper) : Services Action where
  repositoryRoot := Repository.root host host.workdirPath
  hasChanges := Repository.hasChanges host
  locateWrapper root := pure (wrapper.locate host root)
  apply := wrapper.apply host
  log := Action.log

namespace Run

/-! ## Formatting files -/

structure Setup where
  root : Path
  config : Config
  settings : Settings

/-- Finds the repository and what it asks for.  The mode of a command line takes precedence. -/
def prepare (host : Host) (mode : Option PassMode) : Action (Except Failure Setup) := do
  match host.currentDirectory with
  | .error error => pure (.error (.other (.of error.message)))
  | .ok workdir =>
    match ← Plan.resolveRoot (Repository.root host workdir) with
    | .error failure => pure (.error failure)
    | .ok root =>
      match ← Config.load host root with
      | .error failure => pure (.error failure)
      | .ok config =>
        match config.settings with
        | .error failure => pure (.error failure)
        | .ok settings =>
          pure (.ok ⟨root, config, { settings with mode := mode.getD settings.mode }⟩)

/-- Carries a plan out, or tells what it comes to if the run is dry. -/
def carryOut (narrator : Narrator) (services : Services Action) (wrapper : Wrapper)
    (settings : Settings) (dryRun : Bool) (plan : Plan) : Action (Except Failure Unit) := do
  let report := RunReport.ofPlan plan
  Action.print (narrator.skipped plan.selection.skipped)
  match plan.request? with
  | none =>
    Action.print narrator.nothingToFormat
    Action.print (narrator.finish report)
    pure (.ok ())
  | some request =>
    if dryRun then
      Action.print (narrator.dryRun (wrapper.commandLine request))
      Action.print (narrator.finish { report with dryRun := true })
      pure (.ok ())
    else
      let report := { report with invoked := true }
      Action.print (narrator.running settings.goal request.filesArgument)
      match ← Plan.execute services settings plan with
      | .error failure =>
        Action.print (narrator.finish (report.fail failure))
        pure (.error failure)
      | .ok outcome =>
        match outcome with
        | .formatted files =>
          Action.log (.debug ("formatted " ++ toString files ++ " file(s)"))
        | .nothingToFormat => pure ()
        Action.print (narrator.finish report)
        pure (.ok ())

def toolOutput (narrator : Narrator) : ToolOutput :=
  match narrator.audience with
  | .people => .shared
  | .programs => .redirected

def format (machine : Machine) (narrator : Narrator) (mode : Option PassMode) (dryRun : Bool)
    (files : List String) : Action (Except Failure Unit) := do
  if files.isEmpty then pure (.error .noFiles)
  else
    match ← prepare machine.host mode with
    | .error failure => pure (.error failure)
    | .ok setup =>
      let wrapper := Wrapper.ofConfig setup.config machine.platform (toolOutput narrator)
      let services := machine.host.services wrapper
      match ← Plan.make services setup.settings setup.root files with
      | .error failure => pure (.error failure)
      | .ok plan => carryOut narrator services wrapper setup.settings dryRun plan

/-! ## Installing the hook -/

/-- Installs the hook.  The answer has the file tree afterwards, also if that fails. -/
def installHook (machine : Machine) (narrator : Narrator) (force : Bool) (glob : String) :
    Action (FileTree × Except Failure Unit) := do
  let host := machine.host
  match host.currentDirectory with
  | .error error => pure (host.tree, .error (.other (.of error.message)))
  | .ok workdir =>
    match ← Repository.hooksDirectory host workdir with
    | .error trouble => pure (host.tree, .error (.notARepository trouble.chain))
    | .ok directory =>
      match (Hook.install host.workdir directory glob force).run host.tree with
      | .error error left => pure (left, .error (.other (.of error.message)))
      | .ok installation tree =>
        Action.log
          (.debug ("pre-commit hook at " ++ directory.toText ++ ": " ++ installation.name))
        Action.print (narrator.notice ⟨true, installation.message⟩)
        pure (tree, .ok ())

/-! ## Whole runs -/

structure Finish where
  status : Nat
  tree : FileTree
  verbose : Bool

/-- The exit status for an exit code: itself, or 1 if it is no possible status. -/
def exitStatus (code : Int) : Nat :=
  if 0 ≤ code ∧ code ≤ 255 then code.toNat else 1

theorem exitStatus_eq_zero_iff (code : Int) : exitStatus code = 0 ↔ code = 0 := by
  unfold exitStatus
  split <;> omega

def narratorFor (machine : Machine) (invocation : CommandLine.Invocation) : Narrator :=
  ⟨if invocation.json then .programs else .people, machine.colored⟩

/-- Does what a command asks for.  The answer has the file tree afterwards. -/
def perform (machine : Machine) (narrator : Narrator) (command : CommandLine.Command) :
    Action (FileTree × Except Failure Unit) := do
  match command with
  | .installHook force glob => installHook machine narrator force glob
  | .format mode dryRun files =>
    pure (machine.host.tree, ← format machine narrator mode dryRun files)

def invoke (machine : Machine) (invocation : CommandLine.Invocation) : Action Finish := do
  let narrator := narratorFor machine invocation
  match ← perform machine narrator invocation.command with
  | (tree, .ok ()) => pure ⟨0, tree, invocation.verbose⟩
  | (tree, .error failure) =>
    Action.log (.debug ("run failed: " ++ failure.details))
    Action.print (narrator.failure failure)
    pure ⟨exitStatus failure.exitCode, tree, invocation.verbose⟩

/-- Reads a command line and does what it asks for. -/
def obey (machine : Machine) (arguments : List CommandLine.Argument) : Action Finish := do
  match CommandLine.parse arguments with
  | .ok invocation => invoke machine invocation
  | .error (.show page) =>
    Action.print (Terminal.written machine.colored page.text)
    pure ⟨0, machine.host.tree, false⟩
  | .error (.refuse error) =>
    let text := error.text (CommandLine.subject arguments)
    Action.emit (.stderr (Text.bytesOf (Terminal.written machine.colored text)))
    pure ⟨2, machine.host.tree, false⟩

/-- A whole run, before which no program was started. -/
def program (machine : Machine) (arguments : List CommandLine.Argument) : Traced Finish :=
  obey machine arguments []

/-- Which log records are shown: warnings, and the others if the user wants to see them. -/
def shows (verbose : Bool) (entry : LogRecord) : Bool :=
  verbose || entry.level == .warn

def note (machine : Machine) (verbose : Bool) (entry : LogRecord) : String :=
  if shows verbose entry then Terminal.written machine.colored entry.line else ""

end Run

end StagedFormat
