import StagedFormat.Proofs.OneDocument
import StagedFormat.Proofs.Phases

/-!
# What a formatting run starts and what it says

The starts of a run fall into the questions that it asks about the repository and the start of the
wrapper script.  Once there is a plan, everything that the run says follows from one report: for
programs it prints the report, and for people it tells the story of the report.
-/

set_option autoImplicit false

namespace StagedFormat

open StagedFormat.Action

/-! ## Questions and the start of the wrapper script -/

def Start.isQuestion (wish : Start) : Bool :=
  wish.program = .ofText "git"

namespace Traced

variable {α : Type}

def questions (traced : Traced α) : List Start :=
  traced.attempts.filter Start.isQuestion

def wrapperStarts (traced : Traced α) : List Start :=
  traced.attempts.filter fun wish => !wish.isQuestion

end Traced

theorem Host.bytes_ne_nil_of_output? {host : Host} {past : List Started} {wish : Start}
    {output : List UInt8} (answered : host.output? past wish = some output) :
    wish.directory.bytes ≠ [] := by
  unfold output? at answered
  cases ends : host.answer past wish with
  | error error => simp [ends] at answered
  | ok completion =>
    obtain ⟨started, starts⟩ := answer_eq_ok_iff.mp ends
    obtain ⟨resolves, -⟩ := start_eq_ok_iff.mp starts
    obtain ⟨-, -, enters, -, -⟩ := resolve_eq_ok_iff.mp resolves
    exact bytes_ne_nil_of_enter enters

/-- A path with a slash in it is not the name of the command for questions. -/
theorem Start.isQuestion_of_slash {wish : Start}
    (slash : wish.program.bytes.contains Path.slash = true) : wish.isQuestion = false := by
  have bare : (Path.ofText "git").bytes.contains Path.slash = false := by decide
  refine decide_eq_false fun same => ?_
  rw [same, bare] at slash
  cases slash

theorem Plan.exists_reportsChange {settings : Settings} {root : Path} {host : Host}
    {past : List Started} {files : List String} {file : String}
    (member : file ∈ changedFiles settings root host past files) :
    ∃ later, Repository.reportsChange host later root settings.whitespace file = true := by
  induction files generalizing past with
  | nil => cases member
  | cons first rest ih =>
    unfold changedFiles at member
    split at member
    · rcases List.mem_append.mp member with here | later
      · split at here
        · rename_i reported
          obtain rfl := List.mem_singleton.mp here
          exact ⟨past, reported⟩
        · cases here
      · exact ih later
    · exact ih member

namespace Run

variable {machine : Machine} {mode : Option PassMode} {files : List String} {setup : Setup}
  {plan : Plan}

theorem IsPlanned.isQuestion_wrapperStart (known : IsPlanned machine mode files setup plan)
    (changed : plan.selection.qualifying ≠ []) :
    (wrapperStart machine setup.root setup.config mode plan.selection.qualifying).isQuestion =
      false := by
  -- The host can only have answered the question about a changed file if the root has a name, and
  -- then the path of the script has a slash in it.
  obtain ⟨file, member⟩ := List.exists_mem_of_ne_nil _ changed
  rw [known.qualifying] at member
  obtain ⟨past, reported⟩ := Plan.exists_reportsChange member
  unfold Repository.reportsChange at reported
  split at reported
  · rename_i output answered
    exact Start.isQuestion_of_slash
      (Path.contains_slash_join _ _ (Host.bytes_ne_nil_of_output? answered))
  · cases reported

theorem isQuestion_of_mem_attempts_make (wrapper : Wrapper) (settings : Settings) (root : Path)
    (files : List String) (past : List Started) :
    ∀ wish ∈ (Plan.make (machine.host.services wrapper) settings root files past).attempts,
      wish.isQuestion = true := by
  intro wish asked
  cases located : machine.host.tree.isFile machine.host.workdir
      (root.join (.ofText wrapper.name)) with
  | false =>
    rw [(make_of_missing machine wrapper settings root files past located).2] at asked
    cases asked
  | true =>
    by_cases empty : files = []
    · subst empty
      cases asked
    · obtain ⟨-, -, -, -, -, -, attempts⟩ :=
        make_of_found machine wrapper settings root files past empty located
      rw [attempts] at asked
      obtain ⟨file, -, rfl⟩ := List.mem_map.mp asked
      exact decide_eq_true rfl

theorem isQuestion_of_mem_attempts_prepare (host : Host) (mode : Option PassMode)
    (past : List Started) :
    ∀ wish ∈ (prepare host mode past).attempts, wish.isQuestion = true := by
  intro wish asked
  by_cases placed : host.tree.look host.workdir = some .directory
  · rw [attempts_prepare host mode past placed] at asked
    rw [List.mem_singleton.mp asked]
    exact decide_eq_true rfl
  · rw [prepare_of_gone host mode placed] at asked
    cases asked

/-- Until there is a plan, a run only asks questions. -/
theorem isQuestion_of_mem_attempts_planned (narrator : Narrator) (mode : Option PassMode)
    (files : List String) :
    ∀ wish ∈ (planned machine narrator mode files []).attempts, wish.isQuestion = true := by
  intro wish asked
  unfold planned at asked
  split at asked
  · cases asked
  · rw [attempts_bind, List.mem_append] at asked
    rcases asked with first | later
    · exact isQuestion_of_mem_attempts_prepare machine.host mode [] wish first
    · cases prepared : (prepare machine.host mode []).value with
      | error failure => simp [prepared] at later
      | ok setup =>
        rw [prepared] at later
        dsimp only at later
        rw [attempts_bind_of_quiet] at later
        · exact isQuestion_of_mem_attempts_make _ _ _ files _ wish later
        · intro made
          split <;> exact .pure _

theorem isQuestion_of_mem_attempts_secondPhase (narrator : Narrator) (mode : Option PassMode)
    (dryRun : Bool) (files : List String) :
    ∀ wish ∈ (secondPhase machine narrator mode dryRun files).attempts,
      wish.isQuestion = false := by
  intro wish started
  cases made : (planned machine narrator mode files []).value with
  | error failure =>
    rw [secondPhase_of_failure dryRun made] at started
    cases started
  | ok result =>
    have known := isPlanned_of_planned made
    rw [secondPhase_of_planned dryRun made, known.attempts_carriedOut narrator dryRun] at started
    split at started
    · cases started
    · rename_i goes
      rw [List.mem_singleton.mp started]
      exact known.isQuestion_wrapperStart (not_or.mp goes).2

/-! ## Whole runs -/

/-- All that a run says: its output, and then a word about its failure. -/
def said (narrator : Narrator) (run : Traced (Except Failure Unit)) : List UInt8 :=
  run.stdout ++
    match run.value with
    | .error failure => Text.bytesOf (narrator.failure failure)
    | .ok _ => []

theorem isSilent_planned (machine : Machine) (narrator : Narrator) (mode : Option PassMode)
    (files : List String) : IsSilent (planned machine narrator mode files) := by
  have kept := isKept_isSilent
  have starts := isSilent_start machine.host
  unfold planned
  split
  · exact kept.pure _
  · refine kept.bind (kept.prepare starts mode) fun prepared => ?_
    split
    · exact kept.pure _
    · refine kept.bind (kept.make starts _ _ _ files) fun made => ?_
      split <;> exact kept.pure _

section Program

variable (machine) {arguments : List CommandLine.Argument} {invocation : CommandLine.Invocation}
  {dryRun : Bool}

/-- A run that formats files tells of its failure, and is otherwise what formatting is. -/
theorem program_of_format (accepted : CommandLine.parse arguments = .ok invocation)
    (formats : invocation.command = .format mode dryRun files) :
    program machine arguments = (do
      match ← format machine (narratorFor machine invocation) mode dryRun files with
      | .ok () => pure ⟨0, machine.host.tree, invocation.verbose⟩
      | .error failure =>
        log (.debug ("run failed: " ++ failure.details))
        print ((narratorFor machine invocation).failure failure)
        pure ⟨exitStatus failure.exitCode, machine.host.tree, invocation.verbose⟩ :
      Action Finish) [] := by
  rw [program_of_accepted machine accepted, invoke, formats]
  simp only [perform]
  rw [bind_assoc]
  refine congrFun (bind_congr fun result => ?_) []
  rw [pure_bind]
  cases result <;> rfl

theorem attempts_program (accepted : CommandLine.parse arguments = .ok invocation)
    (formats : invocation.command = .format mode dryRun files) :
    (program machine arguments).attempts =
      (planned machine (narratorFor machine invocation) mode files []).attempts ++
        (secondPhase machine (narratorFor machine invocation) mode dryRun files).attempts := by
  rw [program_of_format machine accepted formats, attempts_bind_of_quiet, format_eq, attempts_bind,
    List.nil_append, secondPhase]
  intro result
  split
  · exact .pure _
  · exact .bind (.log _) fun _ => .bind (.print _) fun _ => .pure _

theorem questions_program (accepted : CommandLine.parse arguments = .ok invocation)
    (formats : invocation.command = .format mode dryRun files) :
    (program machine arguments).questions =
      (planned machine (narratorFor machine invocation) mode files []).attempts := by
  rw [Traced.questions, attempts_program machine accepted formats, List.filter_append,
    List.filter_eq_self.mpr (isQuestion_of_mem_attempts_planned _ mode files),
    List.filter_eq_nil_iff.mpr, List.append_nil]
  intro wish started
  simp [isQuestion_of_mem_attempts_secondPhase _ mode dryRun files wish started]

theorem wrapperStarts_program (accepted : CommandLine.parse arguments = .ok invocation)
    (formats : invocation.command = .format mode dryRun files) :
    (program machine arguments).wrapperStarts =
      (secondPhase machine (narratorFor machine invocation) mode dryRun files).attempts := by
  rw [Traced.wrapperStarts, attempts_program machine accepted formats, List.filter_append,
    List.filter_eq_nil_iff.mpr, List.nil_append, List.filter_eq_self.mpr]
  · intro wish started
    simp [isQuestion_of_mem_attempts_secondPhase _ mode dryRun files wish started]
  · intro wish asked
    simp [isQuestion_of_mem_attempts_planned _ mode files wish asked]

theorem stdout_program (accepted : CommandLine.parse arguments = .ok invocation)
    (formats : invocation.command = .format mode dryRun files) :
    (program machine arguments).stdout =
      said (narratorFor machine invocation)
        (secondPhase machine (narratorFor machine invocation) mode dryRun files) := by
  have begun := isSilent_planned machine (narratorFor machine invocation) mode files []
  rw [program_of_format machine accepted formats, stdout_bind, format_eq, stdout_bind, begun,
    List.nil_append, value_bind, List.nil_append, said, secondPhase]
  congr 1
  cases (carriedOut machine (narratorFor machine invocation) dryRun
    (planned machine (narratorFor machine invocation) mode files []).value
    (planned machine (narratorFor machine invocation) mode files []).started).value with
  | error failure => simp
  | ok done => rfl

end Program

end Run

/-! ## The story of a report -/

def linesOf (texts : List String) : List UInt8 :=
  Text.bytesOf (String.join (texts.map Narrator.line))

@[simp] theorem linesOf_nil : linesOf [] = [] := rfl

def Narrator.skipNotice (narrator : Narrator) (skipped : SkippedFile) : String :=
  narrator.tag ++ " Skipping " ++ skipped.file ++ " (" ++ skipped.reason.text ++ ")"

/-- What people read of a run with a report: the files that were skipped, then what was done, and
then what went wrong.  `output` is what the wrapper script, started as `wish` says, printed. -/
def story (narrator : Narrator) (goal : String) (wish : Start) (output : List UInt8)
    (report : RunReport) : List UInt8 :=
  linesOf (report.skipped.map narrator.skipNotice)
    ++ (if report.files = [] then linesOf [narrator.tag ++ " No staged files to format."]
      else if report.dryRun then
        linesOf [narrator.tag ++ " Dry run, not invoking:",
          "  " ++ " ".intercalate (wish.program.toText :: wish.arguments)]
      else if report.invoked then
        linesOf ["Running " ++ goal ++ " on staged files...",
          "Files: " ++ report.filesArgument.getD ""] ++ output
      else [])
    ++ linesOf (report.error.toList.map fun text => narrator.errorTag ++ " " ++ text)

namespace Narrator

variable (colored : Bool)

@[simp] theorem bytesOf_skipped_people (files : List SkippedFile) :
    Text.bytesOf ((Narrator.mk .people colored).skipped files) =
      linesOf (files.map (Narrator.mk .people colored).skipNotice) := by
  simp only [skipped, forPeople, linesOf, List.map_map]
  rfl

@[simp] theorem bytesOf_nothingToFormat_people :
    Text.bytesOf (Narrator.mk .people colored).nothingToFormat =
      linesOf [(Narrator.mk .people colored).tag ++ " No staged files to format."] := rfl

@[simp] theorem bytesOf_dryRun_people (commandLine : String) :
    Text.bytesOf ((Narrator.mk .people colored).dryRun commandLine) =
      linesOf [(Narrator.mk .people colored).tag ++ " Dry run, not invoking:",
        "  " ++ commandLine] := rfl

@[simp] theorem bytesOf_running_people (goal filesArgument : String) :
    Text.bytesOf ((Narrator.mk .people colored).running goal filesArgument) =
      linesOf ["Running " ++ goal ++ " on staged files...", "Files: " ++ filesArgument] := rfl

@[simp] theorem bytesOf_finish_people (report : RunReport) :
    Text.bytesOf ((Narrator.mk .people colored).finish report) = [] := rfl

/-- A failure that a report tells of is no usage error, so that its line has a tag. -/
theorem bytesOf_failure_people {failure : Failure} (reported : failure.isReported = true) :
    Text.bytesOf ((Narrator.mk .people colored).failure failure) =
      linesOf [(Narrator.mk .people colored).errorTag ++ " " ++ failure.message] := by
  cases failure with
  | noFiles => cases reported
  | _ => simp [Narrator.failure, failureLine, linesOf, String.join]

end Narrator

def RunReport.ofResult (plan : Plan) (dryRun : Bool) (result : Except Failure Unit) :
    RunReport :=
  if plan.selection.qualifying = [] then .ofPlan plan
  else if dryRun then { RunReport.ofPlan plan with dryRun := true }
  else
    match result with
    | .ok _ => { RunReport.ofPlan plan with invoked := true }
    | .error failure => RunReport.fail { RunReport.ofPlan plan with invoked := true } failure

structure RunReport.SamePlan (one other : RunReport) : Prop where
  root : one.root = other.root
  wrapper : one.wrapper = other.wrapper
  mode : one.mode = other.mode
  files : one.files = other.files
  skipped : one.skipped = other.skipped
  filesArgument : one.filesArgument = other.filesArgument

theorem RunReport.SamePlan.of_common {common one other : RunReport}
    (first : common.SamePlan one) (second : common.SamePlan other) : one.SamePlan other where
  root := first.root.symm.trans second.root
  wrapper := first.wrapper.symm.trans second.wrapper
  mode := first.mode.symm.trans second.mode
  files := first.files.symm.trans second.files
  skipped := first.skipped.symm.trans second.skipped
  filesArgument := first.filesArgument.symm.trans second.filesArgument

theorem RunReport.samePlan_ofResult (plan : Plan) (dryRun : Bool)
    (result : Except Failure Unit) :
    (RunReport.ofPlan plan).SamePlan (.ofResult plan dryRun result) := by
  unfold ofResult
  split
  · exact ⟨rfl, rfl, rfl, rfl, rfl, rfl⟩
  · split
    · exact ⟨rfl, rfl, rfl, rfl, rfl, rfl⟩
    · cases result <;> exact ⟨rfl, rfl, rfl, rfl, rfl, rfl⟩

/-- What a program that a host is asked to start prints, which is nothing if it does not start. -/
def Host.printed (host : Host) (past : List Started) (wish : Start) : List UInt8 :=
  match host.answer past wish with
  | .error _ => []
  | .ok completion => completion.stdout

theorem Wrapper.stdout_apply_shared (wrapper : Wrapper) (host : Host) (request : Request)
    (past : List Started) (shared : wrapper.output = .shared) :
    (wrapper.apply host request past).stdout = host.printed past (wrapper.startFor request) := by
  simp only [apply, relay, shared, stdout_bind, stdout_log, stdout_start, started_log,
    List.append_nil, List.nil_append, Host.printed, value_start, startFor]
  cases host.answer past
      ⟨request.wrapper, wrapper.arguments request.filesArgument, request.root⟩ with
  | error error => rfl
  | ok completion => simp

theorem Plan.stdout_execute_shared (machine : Machine) (wrapper : Wrapper) (settings : Settings)
    {plan : Plan} {request : Request} (past : List Started) (asked : plan.request? = some request)
    (shared : wrapper.output = .shared) :
    (execute (machine.host.services wrapper) settings plan past).stdout =
      machine.host.printed past (wrapper.startFor request) := by
  simp only [execute, asked]
  refine (stdout_bind_of_silent past _ fun answer => ?_).trans
    (wrapper.stdout_apply_shared machine.host request past shared)
  split
  · exact isKept_isSilent.pure _
  · split <;> exact isKept_isSilent.pure _

namespace Run

variable {machine : Machine} {mode : Option PassMode} {files : List String} {setup : Setup}
  {plan : Plan}

/-- People read the story of the report. -/
theorem IsPlanned.said_people (known : IsPlanned machine mode files setup plan)
    (colored dryRun : Bool) (past : List Started) :
    said ⟨.people, colored⟩
        (carriedOut machine ⟨.people, colored⟩ dryRun (.ok (setup, plan)) past) =
      story ⟨.people, colored⟩ setup.settings.goal
        (wrapperStart machine setup.root setup.config mode plan.selection.qualifying)
        (machine.host.printed past
          (wrapperStart machine setup.root setup.config mode plan.selection.qualifying))
        (.ofResult plan dryRun
          (carriedOut machine ⟨.people, colored⟩ dryRun (.ok (setup, plan)) past).value) := by
  have shared : (wrapperFor machine ⟨.people, colored⟩ setup.config).output = .shared := rfl
  rw [← known.startFor ⟨.people, colored⟩]
  by_cases empty : plan.selection.qualifying = []
  · have idle := (Plan.request?_eq_none_iff plan).mpr empty
    simp [said, carriedOut, carryOut, idle, story, RunReport.ofResult, empty, RunReport.ofPlan]
  · have asked := Plan.request?_of_qualifying plan empty
    have argument := Plan.filesArgument?_of_qualifying plan empty
    cases dryRun with
    | true =>
      simp [said, carriedOut, carryOut, asked, story, RunReport.ofResult, empty, RunReport.ofPlan,
        Wrapper.commandLine, Wrapper.startFor]
    | false =>
      have printed := Plan.stdout_execute_shared machine
        (wrapperFor machine ⟨.people, colored⟩ setup.config) setup.settings past asked shared
      cases ended : (Plan.execute (machine.host.services
          (wrapperFor machine ⟨.people, colored⟩ setup.config)) setup.settings plan past).value with
      | error failure =>
        have reported := isReported_of_execute machine _ setup.settings ended
        simp [said, carriedOut, carryOut, asked, story, RunReport.ofResult, empty,
          RunReport.ofPlan, RunReport.fail, ended, printed, argument,
          Narrator.bytesOf_failure_people colored reported]
      | ok outcome =>
        cases outcome with
        | formatted files =>
          simp [said, carriedOut, carryOut, asked, story, RunReport.ofResult, empty,
            RunReport.ofPlan, ended, printed, argument]
        | nothingToFormat =>
          simp [said, carriedOut, carryOut, asked, story, RunReport.ofResult, empty,
            RunReport.ofPlan, ended, printed, argument]

theorem said_programs (setup : Setup) (plan : Plan) (colored dryRun : Bool)
    (past : List Started) :
    said ⟨.programs, colored⟩
        (carriedOut machine ⟨.programs, colored⟩ dryRun (.ok (setup, plan)) past) =
      documentLine (RunReport.ofResult plan dryRun (carriedOut machine ⟨.programs, colored⟩ dryRun
        (.ok (setup, plan)) past).value).document := by
  have quiet : Text.bytesOf "" = [] := rfl
  by_cases empty : plan.selection.qualifying = []
  · have idle := (Plan.request?_eq_none_iff plan).mpr empty
    simp [said, carriedOut, carryOut, idle, RunReport.ofResult, empty, Narrator.skipped,
      Narrator.nothingToFormat, quiet]
  · have asked := Plan.request?_of_qualifying plan empty
    cases dryRun with
    | true =>
      simp [said, carriedOut, carryOut, asked, RunReport.ofResult, empty, Narrator.skipped,
        Narrator.dryRun, quiet]
    | false =>
      have silent : IsSilent (Plan.execute (machine.host.services
          (wrapperFor machine ⟨.programs, colored⟩ setup.config)) setup.settings plan) :=
        isKept_isSilent.execute setup.settings plan fun request =>
          Wrapper.isSilent_apply _ machine.host request rfl
      cases ended : (Plan.execute (machine.host.services
          (wrapperFor machine ⟨.programs, colored⟩ setup.config)) setup.settings plan
          past).value with
      | error failure =>
        have reported := isReported_of_execute machine _ setup.settings ended
        simp [said, carriedOut, carryOut, asked, RunReport.ofResult, empty, ended, silent past,
          Narrator.skipped, Narrator.running, Narrator.bytesOf_failure, reported, quiet]
      | ok outcome =>
        cases outcome with
        | formatted files =>
          simp [said, carriedOut, carryOut, asked, RunReport.ofResult, empty, ended, silent past,
            Narrator.skipped, Narrator.running, quiet]
        | nothingToFormat =>
          simp [said, carriedOut, carryOut, asked, RunReport.ofResult, empty, ended, silent past,
            Narrator.skipped, Narrator.running, quiet]

theorem ready_failingMachine :
    Ready failingMachine (.ofText "/") {} ⟨.paths, .atLineEnd, [], "spotless:apply"⟩ :=
  ⟨rfl, ⟨Text.bytesOf "/\n", by decide +kernel, by decide +kernel⟩, rfl, rfl, by decide +kernel⟩

end Run

end StagedFormat
