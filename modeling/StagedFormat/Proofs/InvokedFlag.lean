import Mathlib.Data.List.Basic
import StagedFormat.Proofs.Account
import StagedFormat.Proofs.ReportReader
import StagedFormat.Proofs.Utf8

/-!
# Attempts and processes

A run only knows of a process what the host tells it: an attempt to start a program either gives a
process or is refused.  The report of a run says `invoked` as soon as the wrapper script is to be
started, so it tells of the attempt.  It tells of a process as well exactly if the host does not
refuse the start.
-/

set_option autoImplicit false

namespace StagedFormat

open StagedFormat.Action

/-! ## What becomes of the attempts -/

namespace Run

variable (machine : Machine)

theorem runsOn_carryOut (narrator : Narrator) (wrapper : Wrapper) (settings : Settings)
    (dryRun : Bool) (plan : Plan) :
    RunsOn machine.host
      (carryOut narrator (machine.host.services wrapper) wrapper settings dryRun plan) := by
  have kept := isKept_runsOn machine.host
  refine .bind (.print _) fun _ => ?_
  split
  · exact .bind (.print _) fun _ => .bind (.print _) fun _ => .pure _
  · split
    · exact .bind (.print _) fun _ => .bind (.print _) fun _ => .pure _
    · refine .bind (.print _) fun _ => .bind (kept.execute settings plan fun request =>
        kept.apply .start wrapper request fun completion =>
          kept.relay wrapper completion (fun _ => .emit rfl) fun _ _ => .emit rfl) fun outcome => ?_
      split
      · exact .bind (.print _) fun _ => .pure _
      · split
        · exact .bind (.log _) fun _ => .bind (.print _) fun _ => .pure _
        · exact .bind (.print _) fun _ => .pure _

theorem runsOn_format (narrator : Narrator) (mode : Option PassMode) (dryRun : Bool)
    (files : List String) : RunsOn machine.host (format machine narrator mode dryRun files) := by
  rw [format_eq]
  refine .bind (runsOn_planned machine narrator mode files) fun made => ?_
  unfold carriedOut
  split
  · exact .pure _
  · exact runsOn_carryOut machine narrator _ _ dryRun _

theorem runsOn_installHook (narrator : Narrator) (force : Bool) (glob : String) :
    RunsOn machine.host (installHook machine narrator force glob) := by
  unfold installHook
  dsimp only
  split
  · exact .pure _
  · refine .bind ((isKept_runsOn machine.host).hooksDirectory .start _) fun found => ?_
    split
    · exact .pure _
    · split
      · exact .pure _
      · exact .bind (.log _) fun _ => .bind (.print _) fun _ => .pure _

/-- Whatever a run is asked for, its processes are those that the host gives for its attempts. -/
theorem runsOn_obey (arguments : List CommandLine.Argument) :
    RunsOn machine.host (obey machine arguments) := by
  unfold obey
  split
  · rename_i invocation accepted
    refine .bind ?_ fun result => ?_
    · unfold perform
      split
      · exact runsOn_installHook machine _ _ _
      · exact .bind (runsOn_format machine _ _ _ _) fun _ => .pure _
    · split
      · exact .pure _
      · exact .bind (.log _) fun _ => .bind (.print _) fun _ => .pure _
  · exact .bind (.print _) fun _ => .pure _
  · exact .bind (.emit rfl) fun _ => .pure _

theorem started_program (arguments : List CommandLine.Argument) :
    (program machine arguments).started =
      machine.host.after [] (program machine arguments).attempts :=
  runsOn_obey machine arguments []

end Run

/-! ## Processes of the wrapper script -/

def Started.isFile (started : Started) : Bool :=
  match started.program with
  | .file _ => true
  | .command _ => false

/-- The processes of a run that were started as files.  Questions go to a command. -/
def Traced.wrapperProcesses {α : Type} (traced : Traced α) : List Started :=
  traced.started.filter Started.isFile

theorem Host.command_of_findProgram {host : Host} {directory : Location} {program : Path}
    {found : Program} (bare : program.bytes.contains Path.slash = false)
    (finds : host.findProgram directory program = .ok found) : found = .command program := by
  rw [findProgram, bare, if_neg Bool.false_ne_true] at finds
  split at finds
  · cases finds
  · split at finds
    · cases finds
    · split at finds
      · cases finds
        rfl
      · cases finds

theorem Host.isFile_of_isQuestion {host : Host} {wish : Start} {started : Started}
    (asks : wish.isQuestion = true) (resolves : host.resolve wish = .ok started) :
    started.isFile = false := by
  have bare : wish.program.bytes.contains Path.slash = false := by
    have program : wish.program = .ofText "git" := by simpa [Start.isQuestion] using asks
    rw [program]
    decide
  obtain ⟨-, -, -, finds, -⟩ := resolve_eq_ok_iff.mp resolves
  rw [Started.isFile, command_of_findProgram bare finds]

theorem Host.isFile_of_wrapperStart {machine : Machine} {root : Path} {config : Config}
    {mode : Option PassMode} {files : List String} {started : Started}
    (resolves : machine.host.resolve (Run.wrapperStart machine root config mode files) =
      .ok started) : started.isFile = true := by
  obtain ⟨place, file⟩ := Host.exists_file_of_resolve resolves
  rw [Started.isFile, file]

theorem Host.mem_after {host : Host} {past : List Started} {wishes : List Start}
    {started : Started} (member : started ∈ host.after past wishes) :
    started ∈ past ∨ ∃ wish ∈ wishes, host.resolve wish = .ok started := by
  induction wishes generalizing past with
  | nil => exact .inl member
  | cons wish rest ih =>
    rcases ih member with before | ⟨other, later, resolves⟩
    · unfold next at before
      split at before
      · exact .inl before
      · rename_i process completion starts
        rcases List.mem_append.mp before with old | new
        · exact .inl old
        · obtain rfl := List.mem_singleton.mp new
          exact .inr ⟨wish, List.mem_cons_self, (start_eq_ok_iff.mp starts).1⟩
    · exact .inr ⟨other, List.mem_cons_of_mem _ later, resolves⟩

/-- What becomes of a start behind others. -/
def Host.startAfter (host : Host) (wishes : List Start) (wish : Start) :
    Except AccessError (Started × Completion) :=
  host.start (host.after [] wishes) wish

namespace Run

variable (machine : Machine) {arguments : List CommandLine.Argument}
  {invocation : CommandLine.Invocation} {mode : Option PassMode} {dryRun : Bool}
  {files : List String}

theorem filter_isFile_questions (accepted : CommandLine.parse arguments = .ok invocation)
    (formats : invocation.command = .format mode dryRun files) :
    (machine.host.after [] (program machine arguments).questions).filter Started.isFile = [] := by
  rw [questions_program machine accepted formats, List.filter_eq_nil_iff]
  intro started member
  rcases Host.mem_after member with none | ⟨wish, asked, resolves⟩
  · cases none
  · rw [Host.isFile_of_isQuestion (isQuestion_of_mem_attempts_planned _ mode files wish asked)
      resolves]
    exact Bool.false_ne_true

/-- The process of the wrapper script is the one that the host gives for its start. -/
theorem wrapperProcesses_program (accepted : CommandLine.parse arguments = .ok invocation)
    (formats : invocation.command = .format mode dryRun files) :
    (program machine arguments).wrapperProcesses =
      (program machine arguments).wrapperStarts.filterMap fun wish =>
        ((machine.host.startAfter (program machine arguments).questions wish).map
          Prod.fst).toOption := by
  have commands := filter_isFile_questions machine accepted formats
  have attempts : (program machine arguments).attempts =
      (program machine arguments).questions ++ (program machine arguments).wrapperStarts := by
    rw [attempts_program machine accepted formats, questions_program machine accepted formats,
      wrapperStarts_program machine accepted formats]
  have starts := wrapperStarts_program machine accepted formats
  rw [Traced.wrapperProcesses, started_program, attempts, Host.after_append]
  cases made : (planned machine (narratorFor machine invocation) mode files []).value with
  | error failure =>
    rw [secondPhase_of_failure dryRun made] at starts
    rw [starts]
    exact commands
  | ok result =>
    rw [secondPhase_of_planned dryRun made,
      (isPlanned_of_planned made).attempts_carriedOut] at starts
    split at starts
    · rw [starts]
      exact commands
    · rw [starts]
      rw [List.filterMap_cons, List.filterMap_nil, Host.startAfter, Host.after, List.foldl_cons,
        List.foldl_nil, Host.next]
      cases begun : machine.host.start
          (machine.host.after [] (program machine arguments).questions)
          (wrapperStart machine result.1.root result.1.config mode
            result.2.selection.qualifying) with
      | error error => exact commands
      | ok process =>
        have isFile := Host.isFile_of_wrapperStart (Host.start_eq_ok_iff.mp begun).1
        simp [commands, isFile, Except.map, Except.toOption]

end Run

/-! ## Reports of runs -/

theorem documentLine_injective : Function.Injective documentLine := by
  intro one other same
  rw [documentLine_eq, documentLine_eq] at same
  have text := List.append_cancel_right (Text.encode_injective same)
  have read := Json.read?_print one
  rw [text, Json.read?_print] at read
  exact (Option.some.inj read).symm

namespace RunReport

theorem document_injective : Function.Injective document := by
  intro one other same
  obtain ⟨members, object, -, found⟩ := one.ofMembers?_document
  obtain ⟨others, otherObject, -, otherFound⟩ := other.ofMembers?_document
  rw [object, otherObject] at same
  rw [Json.object.inj same, otherFound] at found
  exact (Option.some.inj found).symm

theorem document_ne_failure (report : RunReport) (failure : Failure) :
    report.document ≠ failure.document := by
  intro same
  have names := congrArg (List.map Prod.fst) (Json.object.inj same)
  simp at names

variable (plan : Plan) (dryRun : Bool) (result : Except Failure Unit)

theorem invoked_ofResult :
    (ofResult plan dryRun result).invoked = true ↔
      ¬ (dryRun = true ∨ plan.selection.qualifying = []) := by
  unfold ofResult
  by_cases empty : plan.selection.qualifying = []
  · simp [empty, ofPlan]
  · cases dryRun with
    | true => simp [empty, ofPlan]
    | false => cases result <;> simp [empty, fail]

theorem dryRun_of_ofResult (dry : (ofResult plan dryRun result).dryRun = true) :
    dryRun = true := by
  unfold ofResult at dry
  by_cases empty : plan.selection.qualifying = []
  · simp [empty, ofPlan] at dry
  · cases dryRun with
    | true => rfl
    | false => cases result <;> simp [empty, fail, ofPlan] at dry

theorem error_ofResult (goes : ¬ (dryRun = true ∨ plan.selection.qualifying = []))
    (failure : Failure) :
    (ofResult plan dryRun (.error failure)).error = some failure.message := by
  obtain ⟨wet, changed⟩ := not_or.mp goes
  simp [ofResult, wet, changed, fail]

end RunReport

namespace Run

variable (machine : Machine) {arguments : List CommandLine.Argument}
  {invocation : CommandLine.Invocation} {mode : Option PassMode} {dryRun : Bool}
  {files : List String}

theorem stdout_of_plan (accepted : CommandLine.parse arguments = .ok invocation)
    (wanted : invocation.json = true) (formats : invocation.command = .format mode dryRun files)
    {setup : Setup} {plan : Plan}
    (made : (planned machine (narratorFor machine invocation) mode files []).value =
      .ok (setup, plan)) :
    (program machine arguments).stdout = documentLine (RunReport.ofResult plan dryRun
      (secondPhase machine (narratorFor machine invocation) mode dryRun files).value).document := by
  have narrator : narratorFor machine invocation = ⟨.programs, machine.colored⟩ := by
    simp [narratorFor, wanted]
  rw [stdout_program machine accepted formats, secondPhase_of_planned dryRun made, narrator,
    said_programs]

/-- A run for programs that prints a report has had a plan, and reports what came of it. -/
theorem exists_plan_of_report (accepted : CommandLine.parse arguments = .ok invocation)
    (wanted : invocation.json = true) (formats : invocation.command = .format mode dryRun files)
    {report : RunReport}
    (printed : (program machine arguments).stdout = documentLine report.document) :
    ∃ setup plan,
      (planned machine (narratorFor machine invocation) mode files []).value =
        .ok (setup, plan) ∧
      report = .ofResult plan dryRun
        (secondPhase machine (narratorFor machine invocation) mode dryRun files).value := by
  cases made : (planned machine (narratorFor machine invocation) mode files []).value with
  | error failure =>
    have unreported := (unready_of_planned made).1
    have narrator : narratorFor machine invocation = ⟨.programs, machine.colored⟩ := by
      simp [narratorFor, wanted]
    have told : (program machine arguments).stdout = documentLine failure.document := by
      rw [stdout_program machine accepted formats, secondPhase_of_failure dryRun made, narrator]
      simp [said, Traced.stdout, Narrator.bytesOf_failure, unreported]
    rw [told] at printed
    exact absurd (documentLine_injective printed).symm (report.document_ne_failure failure)
  | ok result =>
    obtain ⟨setup, plan⟩ := result
    rw [stdout_of_plan machine accepted wanted formats made] at printed
    exact ⟨setup, plan, rfl,
      (RunReport.document_injective (documentLine_injective printed)).symm⟩

/-- A report says `invoked` if the wrapper script was to be started, and never of a dry run.  So it
tells the truth about the process exactly if the host does not refuse the start.  If the host does,
the report says `invoked` of a run without a process, and its error tells of the refusal. -/
theorem invoked_tells_attempt (arguments : List CommandLine.Argument)
    (invocation : CommandLine.Invocation) (mode : Option PassMode) (dryRun : Bool)
    (files : List String) (report : RunReport)
    (accepted : CommandLine.parse arguments = .ok invocation) (wanted : invocation.json = true)
    (formats : invocation.command = .format mode dryRun files)
    (printed : (program machine arguments).stdout = documentLine report.document) :
    (report.invoked = true ↔ (program machine arguments).wrapperStarts ≠ []) ∧
    (report.dryRun = true →
      report.invoked = false ∧ (program machine arguments).wrapperProcesses = []) ∧
    ((report.invoked = true ↔ (program machine arguments).wrapperProcesses ≠ []) ↔
      ∀ wish ∈ (program machine arguments).wrapperStarts, ∃ process,
        machine.host.startAfter (program machine arguments).questions wish = .ok process) ∧
    (∀ wish ∈ (program machine arguments).wrapperStarts, ∀ error,
      machine.host.startAfter (program machine arguments).questions wish = .error error →
        report.invoked = true ∧ (program machine arguments).wrapperProcesses = [] ∧
        report.error = some (Failure.notStarted wish.program error.message).message) := by
  obtain ⟨setup, plan, made, rfl⟩ :=
    exists_plan_of_report machine accepted wanted formats printed
  have known := isPlanned_of_planned made
  have starts := wrapperStarts_program machine accepted formats
  have questions := questions_program machine accepted formats
  rw [secondPhase_of_planned dryRun made, known.attempts_carriedOut] at starts
  rw [wrapperProcesses_program machine accepted formats, starts, RunReport.invoked_ofResult]
  by_cases held : dryRun = true ∨ plan.selection.qualifying = []
  · rw [if_pos held]
    refine ⟨by simp [held], ?_, by simp [held], by simp⟩
    intro dry
    refine ⟨?_, rfl⟩
    rw [← Bool.not_eq_true, RunReport.invoked_ofResult]
    exact not_not.mpr held
  · rw [if_neg held]
    refine ⟨by simp [held], ?_, ?_, ?_⟩
    · intro dry
      exact absurd (.inl (RunReport.dryRun_of_ofResult plan dryRun _ dry)) held
    · cases answered : machine.host.startAfter (program machine arguments).questions
          (wrapperStart machine setup.root setup.config mode plan.selection.qualifying) with
      | error error => simp [held, answered, Except.toOption, Except.map]
      | ok process =>
        obtain ⟨started, completion⟩ := process
        simp [held, answered, Except.toOption, Except.map]
    · intro wish member error refused
      obtain rfl := List.mem_singleton.mp member
      refine ⟨held, by simp [refused, Except.toOption, Except.map], ?_⟩
      have answered := refused
      rw [Host.startAfter, questions, ← Host.answer_eq_error_iff] at answered
      have failed : (secondPhase machine (narratorFor machine invocation) mode dryRun files).value =
          .error (.notStarted plan.wrapper error.message) := by
        rw [secondPhase_of_planned dryRun made, known.value_carriedOut, if_neg held, answered]
        rfl
      rw [failed, RunReport.error_ofResult plan dryRun held, known.wrapper]
      rfl

theorem invoked_tells_attempt_failing :
    ∃ report : RunReport,
      (program failingMachine [Text.bytesOf "--json", Text.bytesOf "A.java"]).stdout =
        documentLine report.document ∧
      report.invoked = true ∧
      (program failingMachine
        [Text.bytesOf "--json", Text.bytesOf "A.java"]).wrapperProcesses ≠ [] := by
  have accepted : CommandLine.parse [Text.bytesOf "--json", Text.bytesOf "A.java"] =
      .ok ⟨false, true, .format none false ["A.java"]⟩ :=
    rfl
  obtain ⟨plan, made, -⟩ := planned_of_ready ⟨.programs, failingMachine.colored⟩ none
    (List.cons_ne_nil "A.java" []) ready_failingMachine
  have printed := stdout_of_plan failingMachine accepted rfl rfl made
  obtain ⟨attempt, -, -, -⟩ :=
    invoked_tells_attempt failingMachine _ _ _ _ _ _ accepted rfl rfl printed
  exact ⟨_, printed, attempt.mpr (by decide +kernel), by decide +kernel⟩

/-- A machine whose wrapper script may not be run. -/
def refusingMachine : Machine :=
  { failingMachine with
    host :=
      { failingMachine.host with
        tree :=
          ⟨fun place =>
            if place = .of [Text.bytesOf "mvnw"] then some (.file wrapperScript plainMode)
            else none, .owner⟩ } }

theorem ready_refusingMachine :
    Ready refusingMachine (.ofText "/") {} ⟨.paths, .atLineEnd, [], "spotless:apply"⟩ :=
  ⟨rfl, ⟨Text.bytesOf "/\n", by decide +kernel, by decide +kernel⟩, rfl, rfl, by decide +kernel⟩

/-- The report says `invoked`, and no process but those of questions was started. -/
theorem invoked_without_process :
    ∃ report : RunReport,
      (program refusingMachine [Text.bytesOf "--json", Text.bytesOf "A.java"]).stdout =
        documentLine report.document ∧
      report.invoked = true ∧
      (program refusingMachine
        [Text.bytesOf "--json", Text.bytesOf "A.java"]).wrapperProcesses = [] := by
  have accepted : CommandLine.parse [Text.bytesOf "--json", Text.bytesOf "A.java"] =
      .ok ⟨false, true, .format none false ["A.java"]⟩ :=
    rfl
  obtain ⟨plan, made, -⟩ := planned_of_ready ⟨.programs, refusingMachine.colored⟩ none
    (List.cons_ne_nil "A.java" []) ready_refusingMachine
  have changed : plan.selection.qualifying ≠ [] := by
    rw [(isPlanned_of_planned made).qualifying]
    decide +kernel
  refine ⟨_, stdout_of_plan refusingMachine accepted rfl rfl made, ?_, by decide +kernel⟩
  exact (RunReport.invoked_ofResult _ _ _).mpr (by simp [changed])

end Run

end StagedFormat
