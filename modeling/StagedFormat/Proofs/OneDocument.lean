import StagedFormat.Proofs.ExitStatus
import StagedFormat.Proofs.JsonRoundTrip
import StagedFormat.Proofs.Printed

/-!
# One document for programs

A run for programs prints a single document, whatever happens in it.  Either the run has told how it
ended, or it has printed nothing and ends in a failure that is told afterwards; `Told` says so of
every part of a run, and `program_prints_one_document` of the whole.
-/

set_option autoImplicit false

namespace StagedFormat

open StagedFormat.Action

/-! ## What documents say -/

/-- A document that is an object and agrees with an exit code. -/
structure Reports (document : Json) (members : List (String × Json)) (code : Int) : Prop where
  isObject : document = .object members
  distinct : (members.map Prod.fst).Nodup
  success : ∀ value, ("success", value) ∈ members ↔ value = .boolean (decide (code = 0))
  exitCode : ∀ value, ("exit_code", value) ∈ members → value = .integer code

theorem reports_run (report : RunReport) (code : Int)
    (success : report.success = decide (code = 0)) (same : report.exitCode = code) :
    ∃ members, Reports report.document members code := by
  refine ⟨_, rfl, ?_, ?_, ?_⟩
  · cases report.error <;> simp [Json.optionalMember]
  · intro value
    cases report.error <;> simp [Json.optionalMember, success]
  · intro value
    cases report.error <;> simp [Json.optionalMember, same]

theorem reports_failure (failure : Failure) :
    ∃ members, Reports failure.document members failure.exitCode := by
  have failed : decide (failure.exitCode = 0) = false := by
    simpa using failure.exitCode_ne_zero
  refine ⟨_, rfl, ?_, ?_, ?_⟩
  · cases failure.hint? <;> simp [Json.optionalMember]
  · intro value
    cases failure.hint? <;> simp [Json.optionalMember, failed]
  · intro value
    cases failure.hint? <;> simp [Json.optionalMember]

theorem reports_notice (message : String) :
    ∃ members, Reports (Notice.document ⟨true, message⟩) members 0 := by
  refine ⟨_, rfl, ?_, ?_, ?_⟩
  · simp
  · intro value
    simp
  · intro value
    simp

/-! ## What a run has told -/

def documentLine (document : Json) : List UInt8 :=
  Text.bytesOf (Narrator.line document.text)

theorem documentLine_eq (document : Json) :
    documentLine document = Text.encode (document.print 0 ++ ['\n']) := by
  simp [documentLine, Text.bytesOf, Narrator.line, Json.text]

/-- A run for programs has told of its result in one document, or has printed nothing and ends in
a failure that is still to be told. -/
inductive Told {α : Type} (result : Except Failure α) (stdout : List UInt8) : Prop
  | told (document : Json) (members : List (String × Json))
      (reports : Reports document members (codeOf result))
      (printed : stdout = documentLine document)
      (reported : ∀ failure, result = .error failure → failure.isReported = true)
  | untold (failure : Failure) (failed : result = .error failure)
      (unreported : failure.isReported = false) (silent : stdout = [])

theorem told_of_report {α : Type} {result : Except Failure α} {stdout : List UInt8}
    (report : RunReport) (printed : stdout = documentLine report.document)
    (success : report.success = decide (codeOf result = 0))
    (same : report.exitCode = codeOf result)
    (reported : ∀ failure, result = .error failure → failure.isReported = true) :
    Told result stdout := by
  obtain ⟨members, reports⟩ := reports_run report (codeOf result) success same
  exact .told _ members reports printed reported

/-- What is done before without printing does not matter. -/
theorem told_after_silent {α β : Type} {first : Action β} {next : β → Action (Except Failure α)}
    (past : List Started) (silent : IsSilent first)
    (rest : ∀ later, Told (next (first past).value later).value
      (next (first past).value later).stdout) :
    Told ((first >>= next) past).value ((first >>= next) past).stdout := by
  rw [stdout_bind, silent past, List.nil_append]
  exact rest _

theorem untold_error {α : Type} (failure : Failure) (unreported : failure.isReported = false) :
    Told (.error failure : Except Failure α) [] :=
  .untold failure rfl unreported rfl

/-! ## What narrators print for programs -/

namespace Narrator

variable (colored : Bool)

@[simp] theorem forPeople_programs (lines : List String) :
    (Narrator.mk .programs colored).forPeople lines = "" := rfl

@[simp] theorem bytesOf_finish (report : RunReport) :
    Text.bytesOf ((Narrator.mk .programs colored).finish report) =
      documentLine report.document := rfl

@[simp] theorem bytesOf_notice (notice : Notice) :
    Text.bytesOf ((Narrator.mk .programs colored).notice notice) =
      documentLine notice.document := rfl

theorem bytesOf_failure (failure : Failure) :
    Text.bytesOf ((Narrator.mk .programs colored).failure failure) =
      if failure.isReported then [] else documentLine failure.document := by
  cases reported : failure.isReported with
  | true => simp [Narrator.failure, reported, Text.bytesOf]
  | false => simp [Narrator.failure, reported, documentLine]

end Narrator

namespace Run

variable (machine : Machine) (wrapper : Wrapper) (settings : Settings) (colored : Bool)

theorem told_carryOut (dryRun : Bool) (plan : Plan) (past : List Started)
    (redirected : wrapper.output = .redirected) :
    Told
      (carryOut ⟨.programs, colored⟩ (machine.host.services wrapper) wrapper settings dryRun plan
        past).value
      (carryOut ⟨.programs, colored⟩ (machine.host.services wrapper) wrapper settings dryRun plan
        past).stdout := by
  have quiet : Text.bytesOf "" = [] := rfl
  have value := value_carryOut machine wrapper settings ⟨.programs, colored⟩ dryRun plan past
  cases asked : plan.request? with
  | none =>
    rw [if_pos (.inl asked)] at value
    refine told_of_report (.ofPlan plan) ?_ (by rw [value]; rfl) (by rw [value]; rfl)
      (by simp [value])
    simp [carryOut, asked, Narrator.skipped, Narrator.nothingToFormat, quiet]
  | some request =>
    cases dryRun with
    | true =>
      rw [if_pos (.inr rfl)] at value
      refine told_of_report { RunReport.ofPlan plan with dryRun := true } ?_
        (by rw [value]; rfl) (by rw [value]; rfl) (by simp [value])
      simp [carryOut, asked, Narrator.skipped, Narrator.dryRun, quiet]
    | false =>
      have silent : IsSilent (Plan.execute (machine.host.services wrapper) settings plan) :=
        isKept_isSilent.execute settings plan fun request =>
          wrapper.isSilent_apply machine.host request redirected
      rw [if_neg (by simp [asked])] at value
      cases ended : (Plan.execute (machine.host.services wrapper) settings plan past).value with
      | error failure =>
        rw [ended] at value
        have reported := isReported_of_execute machine wrapper settings ended
        refine told_of_report
          (RunReport.fail { RunReport.ofPlan plan with invoked := true } failure) ?_
          ?_ (by rw [value]; rfl) (by simp [value, Except.map, reported])
        · simp [carryOut, asked, ended, silent past, Narrator.skipped, Narrator.running, quiet]
        · rw [value]
          exact (decide_eq_false failure.exitCode_ne_zero).symm
      | ok outcome =>
        rw [ended] at value
        refine told_of_report { RunReport.ofPlan plan with invoked := true } ?_
          (by rw [value]; rfl) (by rw [value]; rfl) (by simp [value, Except.map])
        cases outcome with
        | formatted files =>
          simp [carryOut, asked, ended, silent past, Narrator.skipped, Narrator.running, quiet]
        | nothingToFormat =>
          simp [carryOut, asked, ended, silent past, Narrator.skipped, Narrator.running, quiet]

/-! ## Formatting files and installing the hook -/

theorem told_format (mode : Option PassMode) (dryRun : Bool) (files : List String)
    (past : List Started) :
    Told (format machine ⟨.programs, colored⟩ mode dryRun files past).value
      (format machine ⟨.programs, colored⟩ mode dryRun files past).stdout := by
  unfold format
  by_cases empty : files.isEmpty = true
  · rw [if_pos empty]
    exact untold_error .noFiles rfl
  rw [if_neg empty]
  refine told_after_silent past
    (isKept_isSilent.prepare (isSilent_start machine.host) mode) fun later => ?_
  cases prepared : (prepare machine.host mode past).value with
  | error failure => exact untold_error failure (isReported_of_prepare prepared)
  | ok setup =>
    refine told_after_silent later (isKept_isSilent.make (isSilent_start machine.host) _ _ _ files)
      fun last => ?_
    cases made : (Plan.make (machine.host.services (Wrapper.ofConfig setup.config machine.platform
        (toolOutput ⟨.programs, colored⟩))) setup.settings setup.root files later).value with
    | error failure => exact untold_error failure (isReported_of_make machine _ _ made)
    | ok plan => exact told_carryOut machine _ setup.settings colored dryRun plan last rfl

theorem told_installHook (force : Bool) (glob : String) (past : List Started) :
    Told (installHook machine ⟨.programs, colored⟩ force glob past).value.2
      (installHook machine ⟨.programs, colored⟩ force glob past).stdout := by
  cases placed : machine.host.currentDirectory with
  | error error =>
    simp only [installHook, placed]
    exact untold_error _ rfl
  | ok workdir =>
    have silent := isKept_isSilent.hooksDirectory (isSilent_start machine.host) workdir past
    simp only [installHook, placed, value_bind, stdout_bind, silent, List.nil_append]
    cases (Repository.hooksDirectory machine.host workdir past).value with
    | error trouble => exact untold_error _ rfl
    | ok directory =>
      dsimp only
      cases installed : (Hook.install machine.host.workdir directory glob force).run
          machine.host.tree with
      | error error left => exact untold_error _ rfl
      | ok installation tree =>
        obtain ⟨members, reports⟩ := reports_notice installation.message
        exact .told _ members reports (by simp) (by simp)

theorem told_perform (command : CommandLine.Command) (past : List Started) :
    Told (perform machine ⟨.programs, colored⟩ command past).value.2
      (perform machine ⟨.programs, colored⟩ command past).stdout := by
  cases command with
  | installHook force glob => exact told_installHook machine colored force glob past
  | format mode dryRun files =>
    simpa [perform] using told_format machine colored mode dryRun files past

/-! ## Whole runs -/

theorem stdout_invoke {invocation : CommandLine.Invocation} (past : List Started)
    (wanted : invocation.json = true) :
    ∃ document members, (invoke machine invocation past).stdout = documentLine document ∧
      Reports document members (codeOf
        (perform machine (narratorFor machine invocation) invocation.command past).value.2) := by
  have narrator : narratorFor machine invocation = ⟨.programs, machine.colored⟩ := by
    simp [narratorFor, wanted]
  have told := told_perform machine machine.colored invocation.command past
  rw [narrator]
  cases ended : (perform machine ⟨.programs, machine.colored⟩ invocation.command past).value with
  | mk tree result =>
    rw [ended] at told
    cases told with
    | told document members reports printed reported =>
      refine ⟨document, members, ?_, reports⟩
      cases result with
      | ok done => simp [invoke, narrator, ended, printed]
      | error failure =>
        simp [invoke, narrator, ended, printed, Narrator.bytesOf_failure, reported failure rfl]
    | untold failure failed unreported silent =>
      obtain ⟨members, reports⟩ := reports_failure failure
      subst failed
      refine ⟨failure.document, members, ?_, reports⟩
      simp [invoke, narrator, ended, silent, Narrator.bytesOf_failure, unreported]

/-- A command line that asks for a document gets one: the standard output is an object and a line
feed.  Its `success` says whether the exit status is 0, and its `exit_code`, if it has one, is the
exit status. -/
theorem program_prints_one_document (arguments : List CommandLine.Argument)
    (invocation : CommandLine.Invocation) (accepted : CommandLine.parse arguments = .ok invocation)
    (wanted : invocation.json = true) :
    ∃ text members,
      (program machine arguments).stdout = Text.encode (text ++ ['\n']) ∧
      Json.read? text = some (.object members) ∧
      (members.map Prod.fst).Nodup ∧
      (∀ value, ("success", value) ∈ members ↔
        value = .boolean (decide ((program machine arguments).value.status = 0))) ∧
      (machine.host.GivesStatus → ∀ value, ("exit_code", value) ∈ members →
        value = .integer (program machine arguments).value.status) := by
  have run : program machine arguments = invoke machine invocation [] := by
    simp [program, obey, accepted]
  obtain ⟨document, members, printed, reports⟩ := stdout_invoke machine [] wanted
  obtain rfl := reports.isObject
  rw [run, status_invoke]
  refine ⟨_, members, printed.trans (documentLine_eq _), Json.read?_print _, reports.distinct,
    ?_, ?_⟩
  · intro value
    rw [reports.success value, decide_eq_decide.mpr (exitStatus_eq_zero_iff _)]
  · intro gives value member
    rw [exitStatus_of_isStatus (isStatus_codeOf_perform machine _ _ gives)]
    exact reports.exitCode value member

def wrapperScript : List UInt8 :=
  Text.bytesOf "#!/bin/sh\nexec java -jar .mvn/wrapper/maven-wrapper.jar \"$@\"\n"

/-- A machine whose repository is the whole tree, where every file is changed and the wrapper
script prints and fails. -/
def failingMachine : Machine where
  host :=
    { tree :=
        ⟨fun place =>
          if place = .of [Text.bytesOf "mvnw"] then some (.file wrapperScript executableMode)
          else none, .owner⟩
      workdir := .top
      onSearchPath := fun name => name = .ofText "git"
      perform := fun _ started =>
        match started.program with
        | .file _ => .ok ⟨.exited 3, Text.bytesOf "no document", []⟩
        | .command _ =>
          if started.arguments.head? = some "rev-parse" then
            .ok ⟨.exited 0, Text.bytesOf "/\n", []⟩
          else .ok ⟨.exited 0, Text.bytesOf "1\t0\tA.java\n", []⟩
      rejection := fun _ => "" }
  platform := .unix
  colored := false

theorem program_prints_one_document_failing :
    ∃ text members,
      (program failingMachine [Text.bytesOf "--json", Text.bytesOf "A.java"]).stdout =
        Text.encode (text ++ ['\n']) ∧
      Json.read? text = some (.object members) ∧
      ("success", .boolean false) ∈ members ∧
      ∀ value, ("exit_code", value) ∈ members → value = .integer 3 := by
  have accepted : CommandLine.parse [Text.bytesOf "--json", Text.bytesOf "A.java"] =
      .ok ⟨false, true, .format none false ["A.java"]⟩ :=
    rfl
  have status : (program failingMachine
      [Text.bytesOf "--json", Text.bytesOf "A.java"]).value.status = 3 := by
    decide +kernel
  have gives : failingMachine.host.GivesStatus := by
    intro past started place completion code isFile performs ending
    simp only [failingMachine, isFile, Except.ok.injEq] at performs
    subst performs
    cases ending
    exact ⟨by decide, by decide⟩
  obtain ⟨text, members, printed, readBack, -, success, exitCode⟩ :=
    program_prints_one_document failingMachine _ _ accepted rfl
  rw [status] at success exitCode
  exact ⟨text, members, printed, readBack, (success _).mpr rfl, exitCode gives⟩

end Run

end StagedFormat
