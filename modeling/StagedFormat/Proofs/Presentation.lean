import StagedFormat.Proofs.Account

/-!
# Ways of telling and of naming

How a run tells what happens, and in which mode it names files to the formatter, has no influence on
what it does: it asks the same questions, chooses the same files, and starts the same wrapper script
or none.  Only the mode shows in the arguments of the wrapper script.  People and programs are told
the same of one run.
-/

set_option autoImplicit false

namespace StagedFormat

open StagedFormat.Action

def Start.place (wish : Start) : Path × Path :=
  (wish.program, wish.directory)

namespace Run

/-- Two runs do the same.  They ask the same questions, start the same wrapper script in the same
directory, or none, and end with the same status if the host, which has been asked the questions
before, answers the two starts alike; that a program cannot be started is an answer as well. -/
structure ActAlike (host : Host) (one other : Traced Finish) : Prop where
  questions : one.questions = other.questions
  places : one.wrapperStarts.map Start.place = other.wrapperStarts.map Start.place
  status : (∀ oneWish ∈ one.wrapperStarts, ∀ otherWish ∈ other.wrapperStarts,
      host.answer (host.after [] one.questions) oneWish =
        host.answer (host.after [] other.questions) otherWish) →
    one.value.status = other.value.status

/-- Programs and people are told the same of a run: programs get a report, and people read its
story. -/
def TellAlike (machine : Machine) (mode : Option PassMode) (setup : Setup)
    (forPrograms forPeople : Traced Finish) : Prop :=
  ∃ report, forPrograms.stdout = documentLine report.document ∧
    forPeople.stdout = story ⟨.people, machine.colored⟩ setup.settings.goal
      (wrapperStart machine setup.root setup.config mode report.files)
      (machine.host.printed (machine.host.after [] forPeople.questions)
        (wrapperStart machine setup.root setup.config mode report.files))
      report

/-! ## One plan in two modes -/

variable {machine : Machine} {files : List String}

/-- Whatever way of telling and whatever mode is asked for, the first phase does the same and ends
in the same failure or in the same plan, but for the mode. -/
theorem planned_alike (oneNarrator otherNarrator : Narrator) (oneMode otherMode : Option PassMode)
    (files : List String) :
    (planned machine oneNarrator oneMode files []).attempts =
        (planned machine otherNarrator otherMode files []).attempts ∧
      ((∃ failure, (planned machine oneNarrator oneMode files []).value = .error failure ∧
          (planned machine otherNarrator otherMode files []).value = .error failure) ∨
        ∃ (setup : Setup) (plan : Plan),
          (planned machine oneNarrator oneMode files []).value =
            .ok (setup.inMode oneMode, plan.inMode (oneMode.getD setup.settings.mode)) ∧
          (planned machine otherNarrator otherMode files []).value =
            .ok (setup.inMode otherMode, plan.inMode (otherMode.getD setup.settings.mode))) := by
  rw [planned_congr machine otherNarrator oneNarrator, planned_inMode machine oneNarrator oneMode,
    planned_inMode machine oneNarrator otherMode]
  simp only [attempts_map, value_map, true_and]
  cases (planned machine oneNarrator none files []).value with
  | error failure => exact .inl ⟨failure, rfl, rfl⟩
  | ok made => exact .inr ⟨made.1, made.2, rfl, rfl⟩

theorem selection_alike (oneNarrator otherNarrator : Narrator)
    (oneMode otherMode : Option PassMode) (files : List String) :
    ((planned machine oneNarrator oneMode files []).value.map fun made => made.2.selection) =
      (planned machine otherNarrator otherMode files []).value.map
        fun made => made.2.selection := by
  obtain ⟨-, ⟨failure, one, other⟩ | ⟨setup, plan, one, other⟩⟩ :=
    planned_alike oneNarrator otherNarrator oneMode otherMode files
  · rw [one, other]
  · rw [one, other]
    rfl

/-! ## Two runs for the same files -/

section TwoRuns

variable (machine) {oneArguments otherArguments : List CommandLine.Argument}
  {oneVerbose otherVerbose oneJson otherJson dryRun : Bool} {oneMode otherMode : Option PassMode}
  (oneAccepted : CommandLine.parse oneArguments =
    .ok ⟨oneVerbose, oneJson, .format oneMode dryRun files⟩)
  (otherAccepted : CommandLine.parse otherArguments =
    .ok ⟨otherVerbose, otherJson, .format otherMode dryRun files⟩)
include oneAccepted otherAccepted

theorem questions_alike : (program machine oneArguments).questions =
    (program machine otherArguments).questions := by
  rw [questions_program machine oneAccepted rfl, questions_program machine otherAccepted rfl]
  exact (planned_alike _ _ oneMode otherMode files).1

theorem wrapperStarts_alike :
    ((program machine oneArguments).wrapperStarts = [] ∧
      (program machine otherArguments).wrapperStarts = [] ∧
      (program machine oneArguments).value.status =
        (program machine otherArguments).value.status) ∨
    ∃ root config qualifying,
      (program machine oneArguments).wrapperStarts =
        [wrapperStart machine root config oneMode qualifying] ∧
      (program machine otherArguments).wrapperStarts =
        [wrapperStart machine root config otherMode qualifying] ∧
      (program machine oneArguments).value.status = exitStatus (answerCode
        (machine.host.answer (machine.host.after [] (program machine oneArguments).questions)
          (wrapperStart machine root config oneMode qualifying))) ∧
      (program machine otherArguments).value.status = exitStatus (answerCode
        (machine.host.answer (machine.host.after [] (program machine otherArguments).questions)
          (wrapperStart machine root config otherMode qualifying))) := by
  rw [wrapperStarts_program machine oneAccepted rfl,
    wrapperStarts_program machine otherAccepted rfl,
    status_program machine oneAccepted rfl, status_program machine otherAccepted rfl,
    questions_program machine oneAccepted rfl, questions_program machine otherAccepted rfl,
    value_format, value_format]
  obtain ⟨-, ⟨failure, one, other⟩ | ⟨setup, plan, one, other⟩⟩ :=
    planned_alike (narratorFor machine ⟨oneVerbose, oneJson, .format oneMode dryRun files⟩)
      (narratorFor machine ⟨otherVerbose, otherJson, .format otherMode dryRun files⟩)
      oneMode otherMode files
  · rw [secondPhase_of_failure dryRun one, secondPhase_of_failure dryRun other]
    exact .inl ⟨rfl, rfl, rfl⟩
  · rw [secondPhase_of_planned dryRun one, secondPhase_of_planned dryRun other,
      (isPlanned_of_planned one).attempts_carriedOut,
      (isPlanned_of_planned other).attempts_carriedOut,
      (isPlanned_of_planned one).codeOf_carriedOut, (isPlanned_of_planned other).codeOf_carriedOut]
    -- Neither condition looks at the mode, so both are this one.
    by_cases held : dryRun = true ∨ plan.selection.qualifying = []
    · refine .inl ⟨if_pos held, if_pos held, ?_⟩
      exact (congrArg exitStatus (if_pos held)).trans (congrArg exitStatus (if_pos held)).symm
    · refine .inr ⟨setup.root, setup.config, plan.selection.qualifying, if_neg held, if_neg held,
        ?_, ?_⟩
      · exact congrArg exitStatus (if_neg held)
      · exact congrArg exitStatus (if_neg held)

theorem actAlike : ActAlike machine.host (program machine oneArguments)
    (program machine otherArguments) := by
  have questions := questions_alike machine oneAccepted otherAccepted
  obtain ⟨one, other, status⟩ | ⟨root, config, qualifying, one, other, oneStatus, otherStatus⟩ :=
    wrapperStarts_alike machine oneAccepted otherAccepted
  · exact ⟨questions, by rw [one, other], fun _ => status⟩
  · refine ⟨questions, by rw [one, other]; rfl, fun answered => ?_⟩
    rw [oneStatus, otherStatus, answered _ (one ▸ List.mem_singleton_self _) _
      (other ▸ List.mem_singleton_self _)]

theorem sameStart_of_sameMode (same : oneMode = otherMode) :
    (program machine oneArguments).wrapperStarts =
        (program machine otherArguments).wrapperStarts ∧
      (program machine oneArguments).value.status =
        (program machine otherArguments).value.status := by
  subst same
  obtain ⟨one, other, status⟩ | ⟨root, config, qualifying, one, other, oneStatus, otherStatus⟩ :=
    wrapperStarts_alike machine oneAccepted otherAccepted
  · exact ⟨by rw [one, other], status⟩
  · refine ⟨by rw [one, other], ?_⟩
    rw [oneStatus, otherStatus, questions_alike machine oneAccepted otherAccepted]

end TwoRuns

theorem tellAlike {setup : Setup} {plan : Plan} {mode : Option PassMode}
    {programArguments peopleArguments : List CommandLine.Argument}
    {programVerbose peopleVerbose dryRun : Bool}
    (programAccepted : CommandLine.parse programArguments =
      .ok ⟨programVerbose, true, .format mode dryRun files⟩)
    (peopleAccepted : CommandLine.parse peopleArguments =
      .ok ⟨peopleVerbose, false, .format mode dryRun files⟩)
    (made : (planned machine ⟨.programs, machine.colored⟩ mode files []).value =
      .ok (setup, plan)) :
    TellAlike machine mode setup (program machine programArguments)
      (program machine peopleArguments) := by
  have known := isPlanned_of_planned made
  have samePhase := congrFun (planned_congr machine ⟨.people, machine.colored⟩
    ⟨.programs, machine.colored⟩ mode files) []
  have madeForPeople : (planned machine ⟨.people, machine.colored⟩ mode files []).value =
      .ok (setup, plan) :=
    (congrArg Traced.value samePhase).trans made
  have programTelling : narratorFor machine
      ⟨programVerbose, true, .format mode dryRun files⟩ = ⟨.programs, machine.colored⟩ := rfl
  have peopleTelling : narratorFor machine
      ⟨peopleVerbose, false, .format mode dryRun files⟩ = ⟨.people, machine.colored⟩ := rfl
  have questions : (program machine peopleArguments).questions =
      (planned machine ⟨.programs, machine.colored⟩ mode files []).attempts := by
    rw [questions_program machine peopleAccepted rfl, peopleTelling, samePhase]
  have sameResult : ∀ past,
      (carriedOut machine ⟨.people, machine.colored⟩ dryRun (.ok (setup, plan)) past).value =
        (carriedOut machine ⟨.programs, machine.colored⟩ dryRun
          (.ok (setup, plan)) past).value := by
    intro past
    rw [known.value_carriedOut, known.value_carriedOut]
  refine ⟨.ofResult plan dryRun
    (secondPhase machine ⟨.programs, machine.colored⟩ mode dryRun files).value, ?_, ?_⟩
  · rw [stdout_program machine programAccepted rfl, programTelling,
      secondPhase_of_planned dryRun made, said_programs]
  · rw [stdout_program machine peopleAccepted rfl, peopleTelling, questions,
      secondPhase_of_planned dryRun madeForPeople, secondPhase_of_planned dryRun made, samePhase,
      known.said_people, sameResult, ← (RunReport.samePlan_ofResult plan _ _).files]
    rfl

/-- Two command lines that differ in `--json`, in `-v` and in the mode do the same, and choose the
same files for the same reasons.  Those of one mode also start the wrapper script with the same
arguments, and if one of them has `--json` and the other one has not, they tell the same story
as soon as there is a plan. -/
theorem presentation_idle (machine : Machine)
    (oneArguments otherArguments : List CommandLine.Argument)
    (oneVerbose otherVerbose oneJson otherJson dryRun : Bool) (oneMode otherMode : Option PassMode)
    (files : List String)
    (oneAccepted : CommandLine.parse oneArguments =
      .ok ⟨oneVerbose, oneJson, .format oneMode dryRun files⟩)
    (otherAccepted : CommandLine.parse otherArguments =
      .ok ⟨otherVerbose, otherJson, .format otherMode dryRun files⟩) :
    ActAlike machine.host (program machine oneArguments) (program machine otherArguments) ∧
    ((planned machine (narratorFor machine ⟨oneVerbose, oneJson, .format oneMode dryRun files⟩)
        oneMode files []).value.map fun made => made.2.selection) =
      ((planned machine
        (narratorFor machine ⟨otherVerbose, otherJson, .format otherMode dryRun files⟩)
        otherMode files []).value.map fun made => made.2.selection) ∧
    (oneMode = otherMode →
      (program machine oneArguments).wrapperStarts =
        (program machine otherArguments).wrapperStarts ∧
      (program machine oneArguments).value.status =
        (program machine otherArguments).value.status ∧
      (oneJson = true → otherJson = false → ∀ setup plan,
        (planned machine ⟨.programs, machine.colored⟩ oneMode files []).value = .ok (setup, plan) →
        TellAlike machine oneMode setup (program machine oneArguments)
          (program machine otherArguments))) := by
  refine ⟨actAlike machine oneAccepted otherAccepted, selection_alike _ _ _ _ files,
    fun sameMode => ?_⟩
  obtain ⟨sameStarts, sameStatus⟩ := sameStart_of_sameMode machine oneAccepted otherAccepted
    sameMode
  refine ⟨sameStarts, sameStatus, fun forPrograms forPeople setup plan made => ?_⟩
  subst sameMode forPrograms forPeople
  exact tellAlike oneAccepted otherAccepted made

theorem presentation_idle_failing :
    ActAlike failingMachine.host
      (program failingMachine [Text.bytesOf "--json", Text.bytesOf "A.java"])
      (program failingMachine [Text.bytesOf "-v", Text.bytesOf "A.java"]) ∧
    ∃ setup, TellAlike failingMachine none setup
      (program failingMachine [Text.bytesOf "--json", Text.bytesOf "A.java"])
      (program failingMachine [Text.bytesOf "-v", Text.bytesOf "A.java"]) := by
  have oneAccepted : CommandLine.parse [Text.bytesOf "--json", Text.bytesOf "A.java"] =
      .ok ⟨false, true, .format none false ["A.java"]⟩ :=
    rfl
  have otherAccepted : CommandLine.parse [Text.bytesOf "-v", Text.bytesOf "A.java"] =
      .ok ⟨true, false, .format none false ["A.java"]⟩ :=
    rfl
  obtain ⟨alike, -, sameMode⟩ := presentation_idle failingMachine _ _ _ _ _ _ _ _ _ _
    oneAccepted otherAccepted
  obtain ⟨-, -, told⟩ := sameMode rfl
  obtain ⟨plan, made, -⟩ := planned_of_ready ⟨.programs, failingMachine.colored⟩ none
    (List.cons_ne_nil "A.java" []) ready_failingMachine
  exact ⟨alike, _, told rfl rfl _ plan made⟩

end Run

end StagedFormat
