import StagedFormat.Proofs.Account

/-!
# Dry runs

A dry run and the real run of a command line do the same until the wrapper script is to be started.
If the real run does not come that far, the two are one and the same.  Otherwise the dry run starts
nothing more and tells how the wrapper script would have been started.
-/

set_option autoImplicit false

namespace StagedFormat

open StagedFormat.Action

namespace Run

/-- What a dry run says when the real run starts the wrapper script. -/
structure Foretells (narrator : Narrator) (wish : Start) (dry real : Traced Finish) : Prop where
  status : dry.value.status = 0
  people : narrator.audience = .people →
    ∃ (skipped : List SkippedFile) (goal filesArgument : String) (rest : List UInt8),
    dry.stdout = linesOf (skipped.map narrator.skipNotice)
      ++ linesOf [narrator.tag ++ " Dry run, not invoking:",
        "  " ++ " ".intercalate (wish.program.toText :: wish.arguments)] ∧
    real.stdout = linesOf (skipped.map narrator.skipNotice)
      ++ linesOf ["Running " ++ goal ++ " on staged files...", "Files: " ++ filesArgument]
      ++ rest
  programs : narrator.audience = .programs → ∃ dryReport report,
    dry.stdout = documentLine dryReport.document ∧ real.stdout = documentLine report.document ∧
    RunReport.SamePlan dryReport report

variable {machine : Machine} {mode : Option PassMode} {files : List String}

theorem format_eq_of_not_hasWork (narrator : Narrator) (mode : Option PassMode)
    (idle : ¬ HasWork machine files) :
    format machine narrator mode true files [] = format machine narrator mode false files [] := by
  have same : carriedOut machine narrator true (planned machine narrator mode files []).value =
      carriedOut machine narrator false (planned machine narrator mode files []).value := by
    cases made : (planned machine narrator mode files []).value with
    | error failure => rfl
    | ok result =>
      have unchanged : result.2.selection.qualifying = [] := by
        by_cases empty : result.2.selection.qualifying = []
        · exact empty
        · exact absurd ((hasWork_iff narrator mode).mpr ⟨_, _, made, empty⟩) idle
      have nothing := (Plan.request?_eq_none_iff result.2).mpr unchanged
      simp [carriedOut, carryOut, nothing]
  rw [format_eq, format_eq]
  simp only [bind, same]

theorem story_dry (narrator : Narrator) (goal : String) (wish : Start) (output : List UInt8)
    {plan : Plan} (changed : plan.selection.qualifying ≠ []) (result : Except Failure Unit) :
    story narrator goal wish output (.ofResult plan true result) =
      linesOf (plan.selection.skipped.map narrator.skipNotice)
        ++ linesOf [narrator.tag ++ " Dry run, not invoking:",
          "  " ++ " ".intercalate (wish.program.toText :: wish.arguments)] := by
  simp [story, RunReport.ofResult, RunReport.ofPlan, changed]

theorem story_real (narrator : Narrator) (goal : String) (wish : Start) (output : List UInt8)
    {plan : Plan} (changed : plan.selection.qualifying ≠ []) (result : Except Failure Unit) :
    ∃ rest, story narrator goal wish output (.ofResult plan false result) =
      linesOf (plan.selection.skipped.map narrator.skipNotice)
        ++ linesOf ["Running " ++ goal ++ " on staged files...",
          "Files: " ++ plan.mode.join plan.root plan.selection.qualifying]
        ++ rest := by
  cases result with
  | error failure =>
    simp [story, RunReport.ofResult, RunReport.ofPlan, RunReport.fail, changed,
      Plan.filesArgument?_of_qualifying plan changed, List.append_assoc]
  | ok done =>
    simp [story, RunReport.ofResult, RunReport.ofPlan, changed,
      Plan.filesArgument?_of_qualifying plan changed, List.append_assoc]

theorem foretells_of_said {setup : Setup} {plan : Plan} (audience : Audience) (colored : Bool)
    (made : (planned machine ⟨audience, colored⟩ mode files []).value = .ok (setup, plan))
    (changed : plan.selection.qualifying ≠ []) {dry real : Traced Finish}
    (status : dry.value.status = 0)
    (dryStdout : dry.stdout =
      said ⟨audience, colored⟩ (secondPhase machine ⟨audience, colored⟩ mode true files))
    (realStdout : real.stdout =
      said ⟨audience, colored⟩ (secondPhase machine ⟨audience, colored⟩ mode false files)) :
    Foretells ⟨audience, colored⟩
      (wrapperStart machine setup.root setup.config mode plan.selection.qualifying) dry real := by
  have known := isPlanned_of_planned made
  rw [secondPhase_of_planned _ made] at dryStdout realStdout
  refine ⟨status, ?_, ?_⟩
  · rintro rfl
    rw [dryStdout, realStdout, known.said_people, known.said_people, story_dry _ _ _ _ changed]
    obtain ⟨rest, told⟩ := story_real ⟨.people, colored⟩ setup.settings.goal
      (wrapperStart machine setup.root setup.config mode plan.selection.qualifying) _ changed _
    exact ⟨_, _, _, rest, rfl, told⟩
  · rintro rfl
    rw [dryStdout, realStdout, said_programs, said_programs]
    exact ⟨_, _, rfl, rfl,
      .of_common (RunReport.samePlan_ofResult plan _ _) (RunReport.samePlan_ofResult plan _ _)⟩

/-- A dry run and the real run ask the same questions, and the dry run starts nothing else.  Without
work for the build tool, the two runs are the same in all that they do and say; with work, the real
run starts the wrapper script, and the dry run tells of the start. -/
theorem dryRun_foretells (machine : Machine) (dryArguments arguments : List CommandLine.Argument)
    (verbose json : Bool) (mode : Option PassMode) (files : List String)
    (dryAccepted : CommandLine.parse dryArguments =
      .ok ⟨verbose, json, .format mode true files⟩)
    (accepted : CommandLine.parse arguments = .ok ⟨verbose, json, .format mode false files⟩) :
    (program machine dryArguments).questions = (program machine arguments).questions ∧
    (program machine dryArguments).wrapperStarts = [] ∧
    (¬ HasWork machine files →
      program machine dryArguments = program machine arguments ∧
      (program machine arguments).wrapperStarts = []) ∧
    (HasWork machine files → ∃ wish, (program machine arguments).wrapperStarts = [wish] ∧
      Foretells ⟨if json then .programs else .people, machine.colored⟩ wish
        (program machine dryArguments) (program machine arguments)) := by
  have telling : ∀ dryRun, narratorFor machine ⟨verbose, json, .format mode dryRun files⟩ =
      ⟨if json then .programs else .people, machine.colored⟩ := fun _ => rfl
  have dryStarts : (program machine dryArguments).wrapperStarts = [] := by
    rw [wrapperStarts_program machine dryAccepted rfl]
    cases made : (planned machine
        (narratorFor machine ⟨verbose, json, .format mode true files⟩) mode files []).value with
    | error failure =>
      rw [secondPhase_of_failure true made]
      rfl
    | ok result =>
      rw [secondPhase_of_planned true made, (isPlanned_of_planned made).attempts_carriedOut,
        if_pos (.inl rfl)]
  refine ⟨?_, dryStarts, ?_, ?_⟩
  · rw [questions_program machine dryAccepted rfl, questions_program machine accepted rfl,
      telling, telling]
  · intro idle
    have same : program machine dryArguments = program machine arguments := by
      rw [program_of_format machine dryAccepted rfl, program_of_format machine accepted rfl,
        telling, telling]
      exact bind_congr_at (format_eq_of_not_hasWork _ mode idle) _
    exact ⟨same, same ▸ dryStarts⟩
  · intro work
    obtain ⟨setup, plan, made, changed⟩ := (hasWork_iff
      ⟨if json then .programs else .people, machine.colored⟩ mode).mp work
    have known := isPlanned_of_planned made
    have status : (program machine dryArguments).value.status = 0 := by
      rw [status_program machine dryAccepted rfl, telling, value_format,
        secondPhase_of_planned true made, known.codeOf_carriedOut, if_pos (.inl rfl)]
      rfl
    refine ⟨_, ?_, foretells_of_said _ _ made changed status ?_ ?_⟩
    · rw [wrapperStarts_program machine accepted rfl, telling, secondPhase_of_planned false made,
        known.attempts_carriedOut, if_neg (by simp [changed])]
    · rw [stdout_program machine dryAccepted rfl, telling]
    · rw [stdout_program machine accepted rfl, telling]

theorem dryRun_foretells_failing :
    ∃ wish, (program failingMachine [Text.bytesOf "A.java"]).wrapperStarts = [wish] ∧
      Foretells ⟨.people, false⟩ wish
        (program failingMachine [Text.bytesOf "--dry-run", Text.bytesOf "A.java"])
        (program failingMachine [Text.bytesOf "A.java"]) := by
  have dryAccepted : CommandLine.parse [Text.bytesOf "--dry-run", Text.bytesOf "A.java"] =
      .ok ⟨false, false, .format none true ["A.java"]⟩ :=
    rfl
  have accepted : CommandLine.parse [Text.bytesOf "A.java"] =
      .ok ⟨false, false, .format none false ["A.java"]⟩ :=
    rfl
  obtain ⟨-, -, -, foretold⟩ := dryRun_foretells failingMachine _ _ _ _ _ _ dryAccepted accepted
  exact foretold ⟨by simp, _, _, _, ready_failingMachine, by decide +kernel⟩

end Run

end StagedFormat
