import StagedFormat.Proofs.CallTrace
import StagedFormat.Proofs.ExitStatus

/-!
# The two phases of a formatting run

A run that formats files makes a plan, and then carries it out.  `format_eq` cuts a run in two at
the point where there is a plan.  What comes before the cut does not depend on how the run tells
what happens, and the way in which files are handed over only shows in the mode of the plan.
-/

set_option autoImplicit false

namespace StagedFormat

open StagedFormat.Action

/-! ## What making a plan depends on -/

namespace Plan

def inMode (plan : Plan) (mode : PassMode) : Plan :=
  { plan with mode }

theorem make_congr (machine : Machine) {one other : Wrapper} (sameName : one.name = other.name)
    (settings : Settings) (root : Path) (files : List String) :
    make (machine.host.services one) settings root files =
      make (machine.host.services other) settings root files := by
  have located : (machine.host.services one).locateWrapper =
      (machine.host.services other).locateWrapper := by
    funext place
    simp only [Host.services, Wrapper.locate, sameName]
  unfold make
  rw [located]
  rfl

/-- The mode has no influence on which files are chosen. -/
theorem make_inMode (services : Services Action) (settings : Settings) (mode : PassMode)
    (root : Path) (files : List String) :
    make services { settings with mode } root files =
      Except.map (·.inMode mode) <$> make services settings root files := by
  have chosen : select services { settings with mode } root files =
      select services settings root files := rfl
  unfold make
  split
  · rfl
  · rw [map_bind]
    refine bind_congr fun lookup => ?_
    cases lookup with
    | missing expected => rfl
    | found wrapper => simp only [chosen, map_bind, map_pure, Except.map, inMode]

end Plan

namespace Run

variable (machine : Machine)

def Setup.inMode (setup : Setup) (mode : Option PassMode) : Setup :=
  { setup with settings := { setup.settings with mode := mode.getD setup.settings.mode } }

theorem prepare_inMode (host : Host) (mode : Option PassMode) :
    prepare host mode = Except.map (·.inMode mode) <$> prepare host none := by
  unfold prepare
  cases host.currentDirectory with
  | error error => rfl
  | ok workdir =>
    simp only [map_bind]
    refine bind_congr fun found => ?_
    cases found with
    | error failure => rfl
    | ok root =>
      simp only [map_bind]
      refine bind_congr fun loaded => ?_
      cases loaded with
      | error failure => rfl
      | ok config =>
        cases compiled : config.settings with
        | error failure => simp [compiled, Except.map]
        | ok settings => simp [compiled, Except.map, Setup.inMode]

/-! ## The first phase -/

def wrapperFor (narrator : Narrator) (config : Config) : Wrapper :=
  .ofConfig config machine.platform (toolOutput narrator)

/-- The first phase of a run: all that comes before there is a plan. -/
def planned (narrator : Narrator) (mode : Option PassMode) (files : List String) :
    Action (Except Failure (Setup × Plan)) := do
  if files.isEmpty then pure (.error .noFiles)
  else
    match ← prepare machine.host mode with
    | .error failure => pure (.error failure)
    | .ok setup =>
      let services := machine.host.services (wrapperFor machine narrator setup.config)
      match ← Plan.make services setup.settings setup.root files with
      | .error failure => pure (.error failure)
      | .ok plan => pure (.ok (setup, plan))

/-- The second phase of a run, if there is a plan. -/
def carriedOut (narrator : Narrator) (dryRun : Bool) :
    Except Failure (Setup × Plan) → Action (Except Failure Unit)
  | .error failure => pure (.error failure)
  | .ok (setup, plan) =>
    let wrapper := wrapperFor machine narrator setup.config
    carryOut narrator (machine.host.services wrapper) wrapper setup.settings dryRun plan

/-- What comes of the second phase behind the first one. -/
def secondPhase (narrator : Narrator) (mode : Option PassMode) (dryRun : Bool)
    (files : List String) : Traced (Except Failure Unit) :=
  let begun := planned machine narrator mode files []
  carriedOut machine narrator dryRun begun.value begun.started

theorem format_eq (narrator : Narrator) (mode : Option PassMode) (dryRun : Bool)
    (files : List String) :
    format machine narrator mode dryRun files =
      planned machine narrator mode files >>= carriedOut machine narrator dryRun := by
  unfold format planned
  split
  · rw [pure_bind]
    rfl
  · rw [bind_assoc]
    refine bind_congr fun prepared => ?_
    cases prepared with
    | error failure => rw [pure_bind]; rfl
    | ok setup =>
      simp only [bind_assoc]
      refine bind_congr fun made => ?_
      cases made with
      | error failure => rw [pure_bind]; rfl
      | ok plan => rw [pure_bind]; rfl

theorem value_format (narrator : Narrator) (mode : Option PassMode) (dryRun : Bool)
    (files : List String) :
    (format machine narrator mode dryRun files []).value =
      (secondPhase machine narrator mode dryRun files).value := by
  rw [format_eq, value_bind, List.nil_append, secondPhase]

theorem planned_congr (one other : Narrator) (mode : Option PassMode) (files : List String) :
    planned machine one mode files = planned machine other mode files := by
  unfold planned
  split
  · rfl
  · refine bind_congr fun prepared => ?_
    cases prepared with
    | error failure => rfl
    | ok setup =>
      -- The two wrappers differ in where their output goes, and planning looks at the name only.
      have same : (wrapperFor machine one setup.config).name =
          (wrapperFor machine other setup.config).name := rfl
      simp only [Plan.make_congr machine same]

theorem planned_inMode (narrator : Narrator) (mode : Option PassMode) (files : List String) :
    planned machine narrator mode files =
      Except.map (fun (setup, plan) =>
          (setup.inMode mode, plan.inMode (mode.getD setup.settings.mode))) <$>
        planned machine narrator none files := by
  unfold planned
  split
  · rfl
  · rw [prepare_inMode, bind_map_left, map_bind]
    refine bind_congr fun prepared => ?_
    cases prepared with
    | error failure => rfl
    | ok setup =>
      simp only [Except.map, Setup.inMode, Plan.make_inMode, bind_map_left, map_bind]
      refine bind_congr fun made => ?_
      cases made with
      | error failure => rfl
      | ok plan => rfl

/-! ## Plans that the first phase makes -/

/-- What is known of a plan: the run was ready for it, and it is for the files that have changed,
under the root of the repository. -/
structure IsPlanned (mode : Option PassMode) (files : List String) (setup : Setup)
    (plan : Plan) : Prop where
  named : files ≠ []
  ready : ∃ settings, Ready machine setup.root setup.config settings ∧
    setup.settings = { settings with mode := mode.getD settings.mode }
  root : plan.root = setup.root
  wrapper : plan.wrapper =
    setup.root.join (.ofText (setup.config.wrapper.on machine.platform))
  mode : plan.mode = setup.settings.mode
  qualifying : plan.selection.qualifying = changedFiles machine setup.root setup.settings files

variable {machine} {narrator : Narrator} {mode : Option PassMode} {files : List String}
  {setup : Setup} {plan : Plan}

theorem isPlanned_of_planned
    (made : (planned machine narrator mode files []).value = .ok (setup, plan)) :
    IsPlanned machine mode files setup plan := by
  unfold planned at made
  by_cases empty : files.isEmpty = true
  · simp [empty] at made
  have named : files ≠ [] := by simpa using empty
  simp only [empty, Bool.false_eq_true, if_false, value_bind] at made
  cases prepared : (prepare machine.host mode []).value with
  | error failure => simp [prepared] at made
  | ok found =>
    obtain ⟨root, config, settings, placed, answered, loaded, compiled, rfl⟩ :=
      (value_prepare_eq_ok_iff machine.host mode [] found).mp prepared
    have output := (Repository.value_root_eq_ok_iff machine.host [] root).mp answered
    simp only [prepared, started_prepare mode placed, value_bind, List.nil_append] at made
    cases located : machine.host.tree.isFile machine.host.workdir
        (root.join (.ofText (config.wrapper.on machine.platform))) with
    | false =>
      obtain ⟨⟨failure, failed⟩, -⟩ := make_of_missing machine
        (wrapperFor machine narrator config)
        { settings with mode := mode.getD settings.mode } root files
        (machine.host.after [] [Repository.rootQuery machine.host]) located
      rw [failed] at made
      cases made
    | true =>
      obtain ⟨other, given, planRoot, planWrapper, planMode, qualifying, -⟩ :=
        make_of_found machine (wrapperFor machine narrator config)
          { settings with mode := mode.getD settings.mode } root files
          (machine.host.after [] [Repository.rootQuery machine.host]) named located
      rw [given] at made
      obtain ⟨rfl, rfl⟩ : _ ∧ _ := by simpa using made
      exact ⟨named, ⟨settings, ⟨placed, output, loaded, compiled, located⟩, rfl⟩, planRoot,
        planWrapper, planMode, qualifying⟩

theorem planned_of_ready (narrator : Narrator) (mode : Option PassMode) (named : files ≠ [])
    {root : Path} {config : Config} {settings : Settings}
    (ready : Ready machine root config settings) :
    ∃ plan,
      (planned machine narrator mode files []).value =
        .ok (⟨root, config, { settings with mode := mode.getD settings.mode }⟩, plan) ∧
      (planned machine narrator mode files []).attempts =
        Repository.rootQuery machine.host :: changeQueries root settings files := by
  have nonempty : files.isEmpty = false := List.isEmpty_eq_false_iff.mpr named
  obtain ⟨plan, made, -, -, -, -, asked⟩ := make_of_found machine
    (wrapperFor machine narrator config)
    { settings with mode := mode.getD settings.mode } root files
    (machine.host.after [] [Repository.rootQuery machine.host]) named ready.located
  refine ⟨plan, ?_, ?_⟩
  · simp only [planned, nonempty, Bool.false_eq_true, if_false, value_bind,
      prepare_of_ready machine mode ready, started_prepare mode ready.placed, List.nil_append,
      made]
    rfl
  · simp only [planned, nonempty, Bool.false_eq_true, if_false, attempts_bind,
      attempts_prepare machine.host mode [] ready.placed, prepare_of_ready machine mode ready,
      started_prepare mode ready.placed, List.nil_append, made, asked]
    simp only [attempts_pure, List.append_nil, List.singleton_append]
    rfl

/-- A run without a plan was not ready for one, and no report tells of its failure. -/
theorem unready_of_planned {failure : Failure}
    (failed : (planned machine narrator mode files []).value = .error failure) :
    failure.isReported = false ∧
      (files = [] ∨ ¬ ∃ root config settings, Ready machine root config settings) := by
  constructor
  · unfold planned at failed
    split at failed
    · cases failed
      rfl
    · simp only [value_bind] at failed
      cases prepared : (prepare machine.host mode []).value with
      | error reason =>
        simp only [prepared, value_pure, Except.error.injEq] at failed
        exact failed ▸ isReported_of_prepare prepared
      | ok setup =>
        simp only [prepared, value_bind] at failed
        cases made : (Plan.make (machine.host.services (wrapperFor machine narrator setup.config))
            setup.settings setup.root files
            ([] ++ (prepare machine.host mode []).started)).value with
        | error reason =>
          simp only [made, value_pure, Except.error.injEq] at failed
          exact failed ▸ isReported_of_make machine _ _ made
        | ok plan =>
          rw [made] at failed
          cases failed
  · by_cases empty : files = []
    · exact .inl empty
    · refine .inr ?_
      rintro ⟨root, config, settings, ready⟩
      obtain ⟨plan, made, -⟩ := planned_of_ready narrator mode empty ready
      rw [made] at failed
      cases failed

theorem runsOn_planned (machine : Machine) (narrator : Narrator) (mode : Option PassMode)
    (files : List String) : RunsOn machine.host (planned machine narrator mode files) := by
  have kept := isKept_runsOn machine.host
  unfold planned
  split
  · exact .pure _
  · refine .bind (kept.prepare .start mode) fun prepared => ?_
    split
    · exact .pure _
    · refine .bind (kept.make .start _ _ _ files) fun made => ?_
      split <;> exact .pure _

/-- What has been started once there is a plan. -/
theorem started_planned (machine : Machine) (narrator : Narrator) (mode : Option PassMode)
    (files : List String) :
    (planned machine narrator mode files []).started =
      machine.host.after [] (planned machine narrator mode files []).attempts :=
  runsOn_planned machine narrator mode files []

theorem secondPhase_of_planned (dryRun : Bool)
    (made : (planned machine narrator mode files []).value = .ok (setup, plan)) :
    secondPhase machine narrator mode dryRun files =
      carriedOut machine narrator dryRun (.ok (setup, plan))
        (machine.host.after [] (planned machine narrator mode files []).attempts) := by
  rw [secondPhase, made, started_planned]

theorem secondPhase_of_failure (dryRun : Bool) {failure : Failure}
    (failed : (planned machine narrator mode files []).value = .error failure) :
    secondPhase machine narrator mode dryRun files = ⟨.error failure, []⟩ := by
  rw [secondPhase, failed]
  rfl

/-- A run has work for the build tool if it can make a plan and a file has changed. -/
def HasWork (machine : Machine) (files : List String) : Prop :=
  files ≠ [] ∧ ∃ root config settings, Ready machine root config settings ∧
    changedFiles machine root settings files ≠ []

theorem hasWork_iff (narrator : Narrator) (mode : Option PassMode) :
    HasWork machine files ↔
      ∃ setup plan, (planned machine narrator mode files []).value = .ok (setup, plan) ∧
        plan.selection.qualifying ≠ [] := by
  constructor
  · rintro ⟨named, root, config, settings, ready, changed⟩
    obtain ⟨plan, made, -⟩ := planned_of_ready narrator mode named ready
    refine ⟨_, plan, made, ?_⟩
    rw [(isPlanned_of_planned made).qualifying, changedFiles_inMode]
    exact changed
  · rintro ⟨setup, plan, made, changed⟩
    obtain ⟨named, ⟨settings, ready, given⟩, -, -, -, qualifying⟩ := isPlanned_of_planned made
    rw [qualifying, given, changedFiles_inMode] at changed
    exact ⟨named, setup.root, setup.config, settings, ready, changed⟩

/-! ## What the build tool answers -/

end Run

theorem Trouble.chain_of (headline : String) : (Trouble.of headline).chain = headline := by
  simp [chain, of]

theorem Plan.value_execute (machine : Machine) (wrapper : Wrapper) (settings : Settings)
    {plan : Plan} {request : Request} (asked : plan.request? = some request)
    (past : List Started) :
    (execute (machine.host.services wrapper) settings plan past).value =
      match machine.host.answer past (wrapper.startFor request) with
      | .error error => .error (.notStarted request.wrapper error.message)
      | .ok completion =>
        if completion.ending.code?.getD 1 = 0 then
          .ok (.formatted plan.selection.qualifying.length)
        else .error (.toolFailed settings.goal (completion.ending.code?.getD 1)) := by
  have applied : ((machine.host.services wrapper).apply request past).value =
      (wrapper.apply machine.host request past).value := rfl
  simp only [execute, asked, value_bind, applied, Wrapper.value_apply]
  cases machine.host.answer past (wrapper.startFor request) with
  | error error => simp [Trouble.chain_of]
  | ok completion =>
    by_cases success : completion.ending.code?.getD 1 = 0
    · simp [success]
    · simp [success]

namespace Run

variable {machine : Machine} {mode : Option PassMode} {files : List String} {setup : Setup}
  {plan : Plan}

theorem IsPlanned.startFor (known : IsPlanned machine mode files setup plan)
    (narrator : Narrator) :
    (wrapperFor machine narrator setup.config).startFor
        ⟨plan.root, plan.wrapper, plan.mode.join plan.root plan.selection.qualifying⟩ =
      wrapperStart machine setup.root setup.config mode plan.selection.qualifying := by
  obtain ⟨settings, ready, given⟩ := known.ready
  have planMode : plan.mode = mode.getD setup.config.mode := by
    rw [known.mode, given, ← mode_of_settings ready.compiled]
  simp only [Wrapper.startFor, wrapperFor, Wrapper.ofConfig, Wrapper.arguments, wrapperStart,
    known.root, known.wrapper, planMode, List.append_assoc, List.cons_append, List.nil_append]
  rfl

def answerCode : Except AccessError Completion → Int
  | .error _ => 1
  | .ok completion => completion.ending.code?.getD 1

/-! ## The second phase -/

theorem IsPlanned.attempts_carriedOut (known : IsPlanned machine mode files setup plan)
    (narrator : Narrator) (dryRun : Bool) (past : List Started) :
    (carriedOut machine narrator dryRun (.ok (setup, plan)) past).attempts =
      if dryRun = true ∨ plan.selection.qualifying = [] then []
      else [wrapperStart machine setup.root setup.config mode plan.selection.qualifying] := by
  rw [← known.startFor narrator]
  exact attempts_carryOut machine _ setup.settings narrator dryRun plan past

def resultOf (wrapper : Path) (goal : String) :
    Except AccessError Completion → Except Failure Unit
  | .error error => .error (.notStarted wrapper error.message)
  | .ok completion =>
    if completion.ending.code?.getD 1 = 0 then .ok ()
    else .error (.toolFailed goal (completion.ending.code?.getD 1))

theorem codeOf_resultOf (wrapper : Path) (goal : String)
    (answer : Except AccessError Completion) :
    codeOf (resultOf wrapper goal answer) = answerCode answer := by
  cases answer with
  | error error => rfl
  | ok completion =>
    by_cases success : completion.ending.code?.getD 1 = 0
    · simp [resultOf, success, codeOf, answerCode]
    · simp [resultOf, success, codeOf, answerCode, Failure.exitCode]

theorem IsPlanned.value_carriedOut (known : IsPlanned machine mode files setup plan)
    (narrator : Narrator) (dryRun : Bool) (past : List Started) :
    (carriedOut machine narrator dryRun (.ok (setup, plan)) past).value =
      if dryRun = true ∨ plan.selection.qualifying = [] then .ok ()
      else resultOf plan.wrapper setup.settings.goal (machine.host.answer past
        (wrapperStart machine setup.root setup.config mode plan.selection.qualifying)) := by
  simp only [carriedOut, value_carryOut, Plan.request?_eq_none_iff]
  by_cases held : dryRun = true ∨ plan.selection.qualifying = []
  · rw [if_pos held.symm, if_pos held]
  · obtain ⟨-, changed⟩ := not_or.mp held
    have asked := Plan.request?_of_qualifying plan changed
    rw [if_neg (mt Or.symm held), if_neg held,
      Plan.value_execute machine _ _ asked, known.startFor narrator]
    cases machine.host.answer past
        (wrapperStart machine setup.root setup.config mode plan.selection.qualifying) with
    | error error => rfl
    | ok completion =>
      by_cases success : completion.ending.code?.getD 1 = 0
      · simp [resultOf, success, Except.map]
      · simp [resultOf, success, Except.map]

theorem IsPlanned.codeOf_carriedOut (known : IsPlanned machine mode files setup plan)
    (narrator : Narrator) (dryRun : Bool) (past : List Started) :
    codeOf (carriedOut machine narrator dryRun (.ok (setup, plan)) past).value =
      if dryRun = true ∨ plan.selection.qualifying = [] then 0
      else answerCode (machine.host.answer past
        (wrapperStart machine setup.root setup.config mode plan.selection.qualifying)) := by
  rw [known.value_carriedOut]
  split
  · rfl
  · exact codeOf_resultOf _ _ _

/-! ## Whole runs -/

theorem program_of_accepted (machine : Machine) {arguments : List CommandLine.Argument}
    {invocation : CommandLine.Invocation}
    (accepted : CommandLine.parse arguments = .ok invocation) :
    program machine arguments = invoke machine invocation [] := by
  simp only [program, obey, accepted]

/-- The exit status of a run that formats files is that of its first failure. -/
theorem status_program (machine : Machine) {arguments : List CommandLine.Argument}
    {invocation : CommandLine.Invocation}
    (accepted : CommandLine.parse arguments = .ok invocation) {dryRun : Bool}
    (formats : invocation.command = .format mode dryRun files) :
    (program machine arguments).value.status =
      exitStatus (codeOf
        (format machine (narratorFor machine invocation) mode dryRun files []).value) := by
  rw [program_of_accepted machine accepted, status_invoke, formats]
  rfl

end Run

end StagedFormat
