import StagedFormat.Proofs.OneDocument
import StagedFormat.Proofs.Phases

/-!
# Exit statuses of formatting runs

A formatting run comes to one of a few verdicts, which follow from what the host replies, and each
verdict has one exit status.  A build tool that fails never leads to the status of success, whatever
its exit code is.
-/

set_option autoImplicit false

namespace StagedFormat.Run

open StagedFormat.Action

/-! ## Verdicts -/

inductive Verdict
  /-- There was no plan. -/
  | unplanned
  /-- There was a plan, and nothing had to be started for it. -/
  | idle
  /-- The wrapper script could not be started. -/
  | unstarted
  /-- The wrapper script ran and reported an exit code. -/
  | ended (code : Int)
  deriving DecidableEq, Repr

def Verdict.status : Verdict → Nat
  | unplanned => 1
  | idle => 0
  | unstarted => 1
  | ended code => if code = 0 then 0 else if 1 ≤ code ∧ code ≤ 255 then code.toNat else 1

theorem Verdict.status_eq_zero_iff (verdict : Verdict) :
    verdict.status = 0 ↔ verdict = .idle ∨ verdict = .ended 0 := by
  cases verdict with
  | ended code =>
    simp only [status, reduceCtorEq, ended.injEq, false_or]
    split
    · simp_all
    · split <;> omega
  | _ => simp [status]

variable (machine : Machine)

/-- A run starts the wrapper script for the files that have changed, behind its questions, and this
is the answer. -/
structure WrapperAnswers (mode : Option PassMode) (dryRun : Bool) (files : List String)
    (answer : Except AccessError Completion) : Prop where
  named : files ≠ []
  wet : dryRun = false
  asked : ∃ root config settings, Ready machine root config settings ∧
    changedFiles machine root settings files ≠ [] ∧
    machine.host.answer
      (machine.host.after []
        (Repository.rootQuery machine.host :: changeQueries root settings files))
      (wrapperStart machine root config mode (changedFiles machine root settings files)) = answer

/-- The verdict that a run comes to.  A signal that ends the wrapper script counts as exit
code 1. -/
inductive Reaches (mode : Option PassMode) (dryRun : Bool) (files : List String) :
    Verdict → Prop
  | noFiles (empty : files = []) : Reaches mode dryRun files .unplanned
  | unready (stopped : ¬ ∃ root config settings, Ready machine root config settings) :
      Reaches mode dryRun files .unplanned
  | idle (named : files ≠ []) (root : Path) (config : Config) (settings : Settings)
      (ready : Ready machine root config settings)
      (held : dryRun = true ∨ changedFiles machine root settings files = []) :
      Reaches mode dryRun files .idle
  | refused (error : AccessError)
      (answer : WrapperAnswers machine mode dryRun files (.error error)) :
      Reaches mode dryRun files .unstarted
  | exited (completion : Completion) (code : Int) (ending : completion.ending = .exited code)
      (answer : WrapperAnswers machine mode dryRun files (.ok completion)) :
      Reaches mode dryRun files (.ended code)
  | killed (completion : Completion) (number : Nat) (signal : String)
      (ending : completion.ending = .signalled number signal)
      (answer : WrapperAnswers machine mode dryRun files (.ok completion)) :
      Reaches mode dryRun files (.ended 1)

variable (narrator : Narrator) {mode : Option PassMode} {dryRun : Bool} {files : List String}

theorem exists_reaches (mode : Option PassMode) (dryRun : Bool) (files : List String) :
    ∃ verdict, Reaches machine mode dryRun files verdict := by
  by_cases empty : files = []
  · exact ⟨_, .noFiles empty⟩
  by_cases stopped : ∃ root config settings, Ready machine root config settings
  · obtain ⟨root, config, settings, ready⟩ := stopped
    by_cases held : dryRun = true ∨ changedFiles machine root settings files = []
    · exact ⟨_, .idle empty root config settings ready held⟩
    · obtain ⟨wet, changed⟩ := not_or.mp held
      have started : WrapperAnswers machine mode dryRun files _ :=
        ⟨empty, by simpa using wet, root, config, settings, ready, changed, rfl⟩
      cases answered : machine.host.answer
          (machine.host.after []
            (Repository.rootQuery machine.host :: changeQueries root settings files))
          (wrapperStart machine root config mode (changedFiles machine root settings files)) with
      | error error => exact ⟨_, .refused error (answered ▸ started)⟩
      | ok completion =>
        cases ending : completion.ending with
        | exited code => exact ⟨_, .exited completion code ending (answered ▸ started)⟩
        | signalled number signal =>
          exact ⟨_, .killed completion number signal ending (answered ▸ started)⟩
  · exact ⟨_, .unready stopped⟩

/-! ## From verdicts to exit codes -/

theorem codeOf_format_of_not_ready
    (stopped : files = [] ∨ ¬ ∃ root config settings, Ready machine root config settings) :
    codeOf (format machine narrator mode dryRun files []).value = 1 := by
  rw [value_format]
  cases made : (planned machine narrator mode files []).value with
  | error failure =>
    rw [secondPhase_of_failure dryRun made]
    exact exitCode_of_unreported (unready_of_planned made).1
  | ok result =>
    obtain ⟨named, ⟨settings, ready, -⟩, -⟩ := isPlanned_of_planned made
    rcases stopped with empty | stopped
    · exact absurd empty named
    · exact absurd ⟨_, _, settings, ready⟩ stopped

theorem codeOf_format_of_ready (mode : Option PassMode) (dryRun : Bool) (named : files ≠ [])
    {root : Path} {config : Config} {settings : Settings}
    (ready : Ready machine root config settings) :
    codeOf (format machine narrator mode dryRun files []).value =
      if dryRun = true ∨ changedFiles machine root settings files = [] then 0
      else answerCode (machine.host.answer
        (machine.host.after []
          (Repository.rootQuery machine.host :: changeQueries root settings files))
        (wrapperStart machine root config mode (changedFiles machine root settings files))) := by
  obtain ⟨plan, made, asked⟩ := planned_of_ready narrator mode named ready
  have known := isPlanned_of_planned made
  rw [value_format, secondPhase_of_planned dryRun made, known.codeOf_carriedOut narrator dryRun,
    known.qualifying, changedFiles_inMode, asked]

theorem codeOf_format_of_wrapperAnswers {answer : Except AccessError Completion}
    (answers : WrapperAnswers machine mode dryRun files answer) :
    codeOf (format machine narrator mode dryRun files []).value = answerCode answer := by
  obtain ⟨named, wet, root, config, settings, ready, changed, given⟩ := answers
  have goes : ¬ (dryRun = true ∨ changedFiles machine root settings files = []) := by
    simp [wet, changed]
  rw [codeOf_format_of_ready machine narrator mode dryRun named ready, if_neg goes, given]

/-! ## From exit codes to exit statuses -/

theorem exitStatus_of_ne_zero {code : Int} (nonzero : code ≠ 0) :
    exitStatus code = if 1 ≤ code ∧ code ≤ 255 then code.toNat else 1 := by
  unfold exitStatus
  by_cases possible : 1 ≤ code ∧ code ≤ 255
  · rw [if_pos possible, if_pos ⟨by omega, possible.2⟩]
  · rw [if_neg possible, if_neg (by omega)]

theorem exitStatus_toolFailed (goal : String) (code : Int) :
    exitStatus (Failure.toolFailed goal code).exitCode =
      if 1 ≤ code ∧ code ≤ 255 then code.toNat else 1 := by
  by_cases zero : code = 0
  · subst zero
    rfl
  · have handedOn : (Failure.toolFailed goal code).exitCode = code := if_neg zero
    rw [handedOn, exitStatus_of_ne_zero zero]

/-- No failure is turned into success on its way to the exit status. -/
theorem exitStatus_exitCode_ne_zero (failure : Failure) : exitStatus failure.exitCode ≠ 0 := by
  intro succeeds
  exact failure.exitCode_ne_zero ((exitStatus_eq_zero_iff _).mp succeeds)

theorem exitStatus_eq_status_ended (code : Int) :
    exitStatus code = (Verdict.ended code).status := by
  by_cases zero : code = 0
  · subst zero
    rfl
  · rw [exitStatus_of_ne_zero zero, Verdict.status, if_neg zero]

theorem exitStatus_of_reaches {verdict : Verdict}
    (reached : Reaches machine mode dryRun files verdict) :
    exitStatus (codeOf (format machine narrator mode dryRun files []).value) = verdict.status := by
  cases reached with
  | noFiles empty =>
    rw [codeOf_format_of_not_ready machine narrator (.inl empty)]
    rfl
  | unready stopped =>
    rw [codeOf_format_of_not_ready machine narrator (.inr stopped)]
    rfl
  | idle named root config settings ready held =>
    rw [codeOf_format_of_ready machine narrator mode dryRun named ready, if_pos held]
    rfl
  | refused error answer =>
    rw [codeOf_format_of_wrapperAnswers machine narrator answer]
    rfl
  | exited completion code ending answer =>
    rw [codeOf_format_of_wrapperAnswers machine narrator answer, answerCode, ending]
    exact exitStatus_eq_status_ended code
  | killed completion number signal ending answer =>
    rw [codeOf_format_of_wrapperAnswers machine narrator answer, answerCode, ending]
    rfl

/-- A run that formats files comes to a verdict and has its exit status.  That is 0 if nothing had
to be started or the wrapper script reported 0, and otherwise it is not: exit codes that are no
possible status become 1. -/
theorem status_eq_of_reaches (arguments : List CommandLine.Argument)
    (invocation : CommandLine.Invocation) (mode : Option PassMode) (dryRun : Bool)
    (files : List String) (accepted : CommandLine.parse arguments = .ok invocation)
    (formats : invocation.command = .format mode dryRun files) :
    (∃ verdict, Reaches machine mode dryRun files verdict) ∧
    (∀ verdict, Reaches machine mode dryRun files verdict →
      (program machine arguments).value.status = verdict.status) ∧
    ((program machine arguments).value.status = 0 ↔
      Reaches machine mode dryRun files .idle ∨ Reaches machine mode dryRun files (.ended 0)) ∧
    (∀ goal code, exitStatus (Failure.toolFailed goal code).exitCode =
      if 1 ≤ code ∧ code ≤ 255 then code.toNat else 1) ∧
    (∀ failure : Failure, (∀ goal code, failure ≠ .toolFailed goal code) →
      exitStatus failure.exitCode = 1) ∧
    ∀ failure : Failure, exitStatus failure.exitCode ≠ 0 := by
  have status : ∀ verdict, Reaches machine mode dryRun files verdict →
      (program machine arguments).value.status = verdict.status := by
    intro verdict reached
    rw [status_program machine accepted formats]
    exact exitStatus_of_reaches machine _ reached
  have some := exists_reaches machine mode dryRun files
  refine ⟨some, status, ⟨?_, ?_⟩, exitStatus_toolFailed, ?_, exitStatus_exitCode_ne_zero⟩
  · intro succeeds
    obtain ⟨verdict, reached⟩ := some
    rw [status verdict reached] at succeeds
    rcases verdict.status_eq_zero_iff.mp succeeds with rfl | rfl
    · exact .inl reached
    · exact .inr reached
  · rintro (reached | reached)
    · exact status _ reached
    · exact status _ reached
  · intro failure other
    cases failure with
    | toolFailed goal code => exact absurd rfl (other goal code)
    | _ => rfl

/-- The failing machine, with a wrapper script that reports an exit code of choice. -/
def reportingMachine (code : Int) : Machine :=
  { failingMachine with
    host := { failingMachine.host with
      perform := fun past started =>
        match started.program with
        | .file _ => .ok ⟨.exited code, [], []⟩
        | .command _ => failingMachine.host.perform past started } }

/-- Exit code 256 would be 0 in eight bits. -/
theorem status_eq_of_reaches_wrapping :
    Reaches (reportingMachine 256) none false ["A.java"] (.ended 256) ∧
      (program (reportingMachine 256) [Text.bytesOf "A.java"]).value.status = 1 := by
  have accepted : CommandLine.parse [Text.bytesOf "A.java"] =
      .ok ⟨false, false, .format none false ["A.java"]⟩ :=
    rfl
  obtain ⟨-, status, -⟩ :=
    status_eq_of_reaches (reportingMachine 256) _ _ none false ["A.java"] accepted rfl
  have ready : Ready (reportingMachine 256) (.ofText "/") {}
      ⟨.paths, .atLineEnd, [], "spotless:apply"⟩ :=
    ⟨rfl, ⟨Text.bytesOf "/\n", by decide +kernel, by decide +kernel⟩, rfl, rfl,
      by decide +kernel⟩
  have reached : Reaches (reportingMachine 256) none false ["A.java"] (.ended 256) :=
    .exited ⟨.exited 256, [], []⟩ 256 rfl
      ⟨by simp, rfl, _, _, _, ready, by decide +kernel, rfl⟩
  exact ⟨reached, status _ reached⟩

end StagedFormat.Run
