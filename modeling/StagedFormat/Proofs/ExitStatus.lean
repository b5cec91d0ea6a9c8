import StagedFormat.Proofs.Attempts

/-!
# Exit codes and exit statuses

Which exit code a run asks for.  A failure is either one that the report of a run tells of, which
comes from executing a plan, or one that came before there was a plan and asks for exit code 1.
If the wrapper script gives possible exit statuses, so does every run.
-/

set_option autoImplicit false

namespace StagedFormat

open StagedFormat.Action

def codeOf {α : Type} : Except Failure α → Int
  | .ok _ => 0
  | .error failure => failure.exitCode

namespace Run

variable (machine : Machine) (wrapper : Wrapper) (settings : Settings) {past : List Started}

/-! ## Failures that a report tells of -/

theorem isReported_of_execute {plan : Plan} {failure : Failure}
    (failed : (Plan.execute (machine.host.services wrapper) settings plan past).value =
      .error failure) : failure.isReported = true := by
  unfold Plan.execute at failed
  cases asked : plan.request? with
  | none => simp [asked] at failed
  | some request =>
    simp only [asked, value_bind] at failed
    cases applied : ((machine.host.services wrapper).apply request past).value with
    | error trouble =>
      simp only [applied, value_pure, Except.error.injEq] at failed
      subst failed
      rfl
    | ok code =>
      by_cases success : code = 0
      · simp [applied, success] at failed
      · simp only [applied, success, if_false, value_pure, Except.error.injEq] at failed
        subst failed
        rfl

theorem isReported_of_parse {rejection : List Char → String} {text : List Char}
    {failure : Failure} (failed : Config.parse rejection text = .error failure) :
    failure.isReported = false := by
  unfold Config.parse at failed
  split at failed
  · cases failed
    rfl
  · split at failed
    · cases failed
      rfl
    · cases failed

theorem isReported_of_load {host : Host} {root : Path} {failure : Failure}
    (failed : (Config.load host root past).value = .error failure) :
    failure.isReported = false := by
  unfold Config.load at failed
  split at failed
  · cases reads : host.tree.readText host.workdir (Config.file root) with
    | error error =>
      simp only [reads, value_pure, Except.error.injEq] at failed
      subst failed
      rfl
    | ok text =>
      rw [reads] at failed
      exact isReported_of_parse failed
  · simp at failed

theorem isReported_of_settings {config : Config} {failure : Failure}
    (failed : config.settings = .error failure) : failure.isReported = false := by
  unfold Config.settings at failed
  split at failed
  · cases failed
    rfl
  · cases failed

/-- What keeps a run from having a plan is not told in a report. -/
theorem isReported_of_prepare {host : Host} {mode : Option PassMode} {failure : Failure}
    (failed : (prepare host mode past).value = .error failure) : failure.isReported = false := by
  cases placed : host.currentDirectory with
  | error error =>
    simp only [prepare, placed, value_pure, Except.error.injEq] at failed
    subst failed
    rfl
  | ok workdir =>
    simp only [prepare, placed, Plan.resolveRoot, value_bind] at failed
    cases asked : (Repository.root host workdir past).value with
    | error trouble =>
      simp only [asked, value_pure, Except.error.injEq] at failed
      subst failed
      rfl
    | ok root =>
      simp only [asked, value_pure, value_bind, started_bind, started_pure] at failed
      cases loaded : (Config.load host root
          (past ++ ((Repository.root host workdir past).started ++ []))).value with
      | error reason =>
        simp only [loaded, value_pure, Except.error.injEq] at failed
        subst failed
        exact isReported_of_load loaded
      | ok config =>
        simp only [loaded] at failed
        cases compiled : config.settings with
        | error reason =>
          simp only [compiled, value_pure, Except.error.injEq] at failed
          subst failed
          exact isReported_of_settings compiled
        | ok settings => simp [compiled] at failed

theorem isReported_of_make {root : Path} {files : List String} {failure : Failure}
    (failed : (Plan.make (machine.host.services wrapper) settings root files past).value =
      .error failure) : failure.isReported = false := by
  have located : (machine.host.services wrapper).locateWrapper root =
      pure (wrapper.locate machine.host root) := rfl
  unfold Plan.make at failed
  split at failed
  · cases failed
    rfl
  · simp only [located, value_bind, value_pure] at failed
    cases found : wrapper.locate machine.host root with
    | missing expected =>
      simp only [found, value_pure, Except.error.injEq] at failed
      subst failed
      rfl
    | found path => simp [found] at failed

/-! ## What runs come to -/

/-- Carrying a plan out comes to executing it, unless there is nothing to do or the run is dry. -/
theorem value_carryOut (narrator : Narrator) (dryRun : Bool) (plan : Plan) (past : List Started) :
    (carryOut narrator (machine.host.services wrapper) wrapper settings dryRun plan past).value =
      if plan.request? = none ∨ dryRun = true then .ok ()
      else
        (Plan.execute (machine.host.services wrapper) settings plan past).value.map
          fun _ => () := by
  cases asked : plan.request? with
  | none => simp [carryOut, asked]
  | some request =>
    cases dryRun with
    | true => simp [carryOut, asked]
    | false =>
      cases ended : (Plan.execute (machine.host.services wrapper) settings plan past).value with
      | error failure => simp [carryOut, asked, ended, Except.map]
      | ok outcome => cases outcome <;> simp [carryOut, asked, ended, Except.map]

theorem status_invoke (invocation : CommandLine.Invocation) (past : List Started) :
    (invoke machine invocation past).value.status =
      exitStatus (codeOf
        (perform machine (narratorFor machine invocation) invocation.command past).value.2) := by
  cases ended :
      (perform machine (narratorFor machine invocation) invocation.command past).value with
  | mk tree result =>
    cases result with
    | ok done =>
      simp only [invoke, value_bind, ended]
      rfl
    | error failure => simp [invoke, ended, codeOf]

end Run

/-! ## Exit codes of the wrapper script -/

def IsStatus (code : Int) : Prop := 0 ≤ code ∧ code ≤ 255

/-- Whether all programs that are started as files end with a possible exit status, if with any
exit code. -/
def Host.GivesStatus (host : Host) : Prop :=
  ∀ past started place completion code, started.program = .file place →
    host.perform past started = .ok completion → completion.ending = .exited code → IsStatus code

theorem Path.contains_slash_join (root name : Path) (named : root.bytes ≠ []) :
    (root.join name).bytes.contains Path.slash = true := by
  unfold Path.join
  by_cases absolute : name.isAbsolute = true
  · rw [if_pos absolute]
    have first : name.bytes.head? = some Path.slash := by simpa [Path.isAbsolute] using absolute
    exact List.contains_iff_mem.mpr (List.mem_of_mem_head? first)
  · rw [if_neg absolute]
    by_cases apart : root.needsSlash = true
    · simp [if_pos apart]
    · rw [if_neg apart]
      cases ends : root.bytes.getLast? with
      | none => exact absurd (List.getLast?_eq_none_iff.mp ends) named
      | some last =>
        obtain rfl : last = Path.slash := by simpa [Path.needsSlash, ends] using apart
        have inside := List.mem_of_getLast? ends
        simp [inside]

theorem Host.exists_file_of_findProgram {host : Host} {directory : Location} {program : Path}
    {found : Program} (slash : program.bytes.contains Path.slash = true)
    (finds : host.findProgram directory program = .ok found) : ∃ place, found = .file place := by
  rw [findProgram, if_pos slash] at finds
  cases reached : host.tree.find directory program with
  | error error => simp [reached, bind, Except.bind] at finds
  | ok place =>
    simp only [reached, bind, Except.bind] at finds
    split at finds
    · cases finds
    · cases finds
    · split at finds
      · cases finds
        exact ⟨place, rfl⟩
      · cases finds

theorem Host.bytes_ne_nil_of_enter {host : Host} {directory : Path} {place : Location}
    (enters : host.enter directory = .ok place) : directory.bytes ≠ [] := by
  intro empty
  simp [enter, FileTree.find, empty, bind, Except.bind] at enters

theorem Host.resolve_eq_ok_iff {host : Host} {wish : Start} {started : Started} :
    host.resolve wish = .ok started ↔
      hasNul wish = false ∧ hasLongArgument wish = false ∧
        host.enter wish.directory = .ok started.directory ∧
        host.findProgram started.directory wish.program = .ok started.program ∧
        started.arguments = wish.arguments := by
  obtain ⟨program, arguments, directory⟩ := started
  unfold resolve
  cases hasNul wish with
  | true => simp
  | false =>
    cases host.enter wish.directory with
    | error error => simp [bind, Except.bind]
    | ok place =>
      cases finds : host.findProgram place wish.program with
      | error error =>
        simp only [Bool.false_eq_true, if_false, finds, bind, Except.bind, reduceCtorEq, false_iff,
          Except.ok.injEq]
        rintro ⟨-, -, rfl, found, -⟩
        rw [finds] at found
        cases found
      | ok found =>
        cases hasLongArgument wish with
        | true => simp [finds, bind, Except.bind]
        | false =>
          simp only [Bool.false_eq_true, if_false, finds, bind, Except.bind, Except.ok.injEq,
            Started.mk.injEq, true_and]
          constructor
          · rintro ⟨rfl, rfl, rfl⟩
            exact ⟨rfl, finds, rfl⟩
          · rintro ⟨rfl, same, rfl⟩
            exact ⟨Except.ok.inj (finds.symm.trans same), rfl, rfl⟩

/-- A wrapper script is started as a file, never as a command. -/
theorem Host.exists_file_of_resolve {host : Host} {root name : Path} {arguments : List String}
    {started : Started} (resolves : host.resolve ⟨root.join name, arguments, root⟩ = .ok started) :
    ∃ place, started.program = .file place := by
  obtain ⟨-, -, enters, finds, -⟩ := resolve_eq_ok_iff.mp resolves
  exact exists_file_of_findProgram
    (Path.contains_slash_join root name (bytes_ne_nil_of_enter enters)) finds

namespace Run

variable (machine : Machine) (wrapper : Wrapper) (settings : Settings) {past : List Started}

theorem exitCode_of_unreported {failure : Failure} (unreported : failure.isReported = false) :
    failure.exitCode = 1 := by
  cases failure <;> simp_all [Failure.isReported, Failure.exitCode]

theorem isStatus_zero : IsStatus 0 := ⟨by decide, by decide⟩

theorem isStatus_one : IsStatus 1 := ⟨by decide, by decide⟩

theorem isStatus_of_unreported {failure : Failure} (unreported : failure.isReported = false) :
    IsStatus failure.exitCode := by
  rw [exitCode_of_unreported unreported]
  exact isStatus_one

theorem isStatus_of_apply {host : Host} {request : Request} {name : Path} {code : Int}
    (gives : host.GivesStatus) (place : request.wrapper = request.root.join name)
    (applied : (wrapper.apply host request past).value = .ok code) : IsStatus code := by
  rw [wrapper.value_apply host request past] at applied
  cases answered : host.answer past (wrapper.startFor request) with
  | error error => simp [answered] at applied
  | ok completion =>
    rw [answered] at applied
    obtain ⟨started, starts⟩ := Host.answer_eq_ok_iff.mp answered
    obtain ⟨resolves, performs⟩ := Host.start_eq_ok_iff.mp starts
    rw [Wrapper.startFor, place] at resolves
    obtain ⟨file, isFile⟩ := Host.exists_file_of_resolve resolves
    cases ending : completion.ending with
    | exited given =>
      obtain rfl : given = code := by simpa [ending, Ending.code?] using applied
      exact gives past started file completion given isFile performs ending
    | signalled number signal =>
      obtain rfl : 1 = code := by simpa [ending, Ending.code?] using applied
      exact isStatus_one

theorem isStatus_of_execute {plan : Plan} {name : Path} {failure : Failure}
    (gives : machine.host.GivesStatus) (place : plan.wrapper = plan.root.join name)
    (failed : (Plan.execute (machine.host.services wrapper) settings plan past).value =
      .error failure) : IsStatus failure.exitCode := by
  unfold Plan.execute at failed
  cases asked : plan.request? with
  | none => simp [asked] at failed
  | some request =>
    have placed : request.wrapper = request.root.join name := by
      obtain ⟨argument, -, rfl⟩ := Option.map_eq_some_iff.mp asked
      exact place
    simp only [asked, value_bind, Host.services] at failed
    cases applied : (wrapper.apply machine.host request past).value with
    | error trouble =>
      simp only [applied, value_pure, Except.error.injEq] at failed
      subst failed
      exact isStatus_one
    | ok code =>
      have bounds := isStatus_of_apply wrapper gives placed applied
      by_cases success : code = 0
      · simp [applied, success] at failed
      · simp only [applied, success, if_false, value_pure, Except.error.injEq] at failed
        subst failed
        simpa [Failure.exitCode, success] using bounds

theorem wrapper_of_make {root : Path} {files : List String} {plan : Plan}
    (made : (Plan.make (machine.host.services wrapper) settings root files past).value =
      .ok plan) : plan.wrapper = plan.root.join (.ofText wrapper.name) := by
  have located : (machine.host.services wrapper).locateWrapper root =
      pure (wrapper.locate machine.host root) := rfl
  unfold Plan.make at made
  split at made
  · cases made
  · simp only [located, value_bind, value_pure] at made
    cases found : wrapper.locate machine.host root with
    | missing expected => simp [found] at made
    | found path =>
      simp only [found, value_bind, value_pure, Except.ok.injEq] at made
      subst made
      unfold Wrapper.locate at found
      dsimp only at found
      split at found
      · exact (Lookup.found.inj found).symm
      · cases found

theorem eq_error_of_map {α β : Type} {change : α → β} {result : Except Failure α}
    {failure : Failure} (failed : result.map change = .error failure) :
    result = .error failure := by
  cases result with
  | error reason => exact congrArg _ (Except.error.inj failed)
  | ok value => cases failed

theorem error_of_format {narrator : Narrator} {mode : Option PassMode} {dryRun : Bool}
    {files : List String} {failure : Failure}
    (failed : (format machine narrator mode dryRun files past).value = .error failure) :
    failure.isReported = false ∨
      ∃ wrapper settings plan later, plan.wrapper = plan.root.join (.ofText wrapper.name) ∧
        (Plan.execute (machine.host.services wrapper) settings plan later).value =
          .error failure := by
  unfold format at failed
  split at failed
  · cases failed
    exact .inl rfl
  · simp only [value_bind] at failed
    cases prepared : (prepare machine.host mode past).value with
    | error reason =>
      simp only [prepared, value_pure, Except.error.injEq] at failed
      subst failed
      exact .inl (isReported_of_prepare prepared)
    | ok setup =>
      simp only [prepared, value_bind] at failed
      cases made : (Plan.make (machine.host.services (Wrapper.ofConfig setup.config
          machine.platform (toolOutput narrator))) setup.settings setup.root files
          (past ++ (prepare machine.host mode past).started)).value with
      | error reason =>
        simp only [made, value_pure, Except.error.injEq] at failed
        subst failed
        exact .inl (isReported_of_make machine _ _ made)
      | ok plan =>
        simp only [made, value_carryOut] at failed
        split at failed
        · cases failed
        · exact .inr ⟨_, _, plan, _, wrapper_of_make machine _ _ made, eq_error_of_map failed⟩

theorem isReported_of_installHook {narrator : Narrator} {force : Bool} {glob : String}
    {failure : Failure}
    (failed : (installHook machine narrator force glob past).value.2 = .error failure) :
    failure.isReported = false := by
  cases placed : machine.host.currentDirectory with
  | error error =>
    simp only [installHook, placed, value_pure, Except.error.injEq] at failed
    subst failed
    rfl
  | ok workdir =>
    simp only [installHook, placed, value_bind] at failed
    cases asked : (Repository.hooksDirectory machine.host workdir past).value with
    | error trouble =>
      simp only [asked, value_pure, Except.error.injEq] at failed
      subst failed
      rfl
    | ok directory =>
      simp only [asked] at failed
      cases installed : (Hook.install machine.host.workdir directory glob force).run
          machine.host.tree with
      | error error left =>
        simp only [installed, value_pure, Except.error.injEq] at failed
        subst failed
        rfl
      | ok installation tree => simp [installed] at failed

theorem isStatus_of_format {narrator : Narrator} {mode : Option PassMode} {dryRun : Bool}
    {files : List String} {failure : Failure} (gives : machine.host.GivesStatus)
    (failed : (format machine narrator mode dryRun files past).value = .error failure) :
    IsStatus failure.exitCode := by
  rcases error_of_format machine failed with
    unreported | ⟨wrapper, settings, plan, later, place, ended⟩
  · exact isStatus_of_unreported unreported
  · exact isStatus_of_execute machine wrapper settings gives place ended

theorem isStatus_codeOf_perform (narrator : Narrator) (command : CommandLine.Command)
    (gives : machine.host.GivesStatus) :
    IsStatus (codeOf (perform machine narrator command past).value.2) := by
  cases ended : (perform machine narrator command past).value.2 with
  | ok done => exact isStatus_zero
  | error failure =>
    cases command with
    | installHook force glob =>
      exact isStatus_of_unreported (isReported_of_installHook machine ended)
    | format mode dryRun files => exact isStatus_of_format machine gives ended

theorem exitStatus_of_isStatus {code : Int} (isStatus : IsStatus code) :
    (exitStatus code : Int) = code := by
  have possible : 0 ≤ code ∧ code ≤ 255 := isStatus
  rw [exitStatus, if_pos possible, Int.toNat_of_nonneg possible.1]

end Run

end StagedFormat
