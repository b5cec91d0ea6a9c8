import StagedFormat.Proofs.Attempts

/-!
# The call trace of a formatting run

Which programs a run that formats files asks the host to start, and in which order.  `CallTrace`
says it by the stage that the run reaches; `callTrace_iff` says that a run asks for these starts
and for no others.
-/

set_option autoImplicit false

namespace StagedFormat

open StagedFormat.Action

/-! ## Sorting the candidates out -/

namespace Plan

variable (machine : Machine) (wrapper : Wrapper) (settings : Settings) (root : Path)

/-- The candidates that are examined and reported as changed.  Each is examined behind those before
it. -/
def changedFiles (host : Host) (past : List Started) : List String → List String
  | [] => []
  | file :: rest =>
    if settings.includes file then
      (if Repository.reportsChange host past root settings.whitespace file then [file] else [])
        ++ changedFiles host
          (host.next past (Repository.changeQuery root settings.whitespace file)) rest
    else changedFiles host past rest

theorem attempts_consider (selection : Selection) (file : String) (past : List Started) :
    (consider (machine.host.services wrapper) settings root selection file past).attempts =
      if settings.includes file then
        [Repository.changeQuery root settings.whitespace file]
      else [] := by
  unfold consider
  by_cases included : settings.includes file = true
  · rw [if_pos included, if_pos included, attempts_bind_of_quiet]
    · exact Repository.attempts_hasChanges machine.host past root file settings.whitespace
    · intro answer
      split
      · exact .pure _
      · exact .pure _
      · exact .bind (.log _) fun _ => .pure _
  · simp [if_neg included, Host.services]

theorem qualifying_consider (selection : Selection) (file : String) (past : List Started) :
    (consider (machine.host.services wrapper) settings root selection file past).value.qualifying =
      selection.qualifying ++ changedFiles settings root machine.host past [file] := by
  unfold consider
  by_cases included : settings.includes file = true
  · have answer := Repository.value_hasChanges_eq_ok_true_iff machine.host past root file
      settings.whitespace
    simp only [if_pos included, value_bind, Host.services, changedFiles]
    cases answered : (Repository.hasChanges machine.host root file settings.whitespace past).value
    with
    | error trouble =>
      have silent : ¬ Repository.reportsChange machine.host past root settings.whitespace file := by
        intro reported
        simp [answer.mpr reported] at answered
      simp [silent]
    | ok changed =>
      cases changed with
      | true => simp [answer.mp answered]
      | false =>
        have silent :
            ¬ Repository.reportsChange machine.host past root settings.whitespace file := by
          intro reported
          simp [answer.mpr reported] at answered
        simp [silent]
  · simp [included, changedFiles]

theorem changedFiles_cons (host : Host) (past : List Started) (file : String)
    (rest : List String) :
    changedFiles settings root host past (file :: rest) =
      changedFiles settings root host past [file] ++
        changedFiles settings root host
          (host.after past (if settings.includes file then
            [Repository.changeQuery root settings.whitespace file] else [])) rest := by
  by_cases included : settings.includes file = true
  · simp [changedFiles, included, Host.after]
  · simp [changedFiles, included]

/-- The mode has no influence on which files are examined and reported. -/
theorem changedFiles_inMode (host : Host) (past : List Started) (files : List String)
    (mode : PassMode) :
    changedFiles { settings with mode } root host past files =
      changedFiles settings root host past files := by
  induction files generalizing past with
  | nil => rfl
  | cons file rest ih =>
    simp only [changedFiles, ih]
    rfl

/-- Every included candidate is asked about once for each time it is named, in the order in which
the candidates are named, whatever the answers are. -/
theorem attempts_select_from (files : List String) (selection : Selection)
    (past : List Started) :
    (files.foldlM (consider (machine.host.services wrapper) settings root) selection
        past).attempts =
      (files.filter settings.includes).map
        (Repository.changeQuery root settings.whitespace) := by
  induction files generalizing selection past with
  | nil => rfl
  | cons file rest ih =>
    rw [List.foldlM_cons, attempts_bind, attempts_consider, ih]
    by_cases included : settings.includes file = true
    · simp [included]
    · simp [included]

theorem qualifying_select_from (files : List String) (selection : Selection)
    (past : List Started) :
    (files.foldlM (consider (machine.host.services wrapper) settings root) selection
        past).value.qualifying =
      selection.qualifying ++ changedFiles settings root machine.host past files := by
  induction files generalizing selection past with
  | nil => simp [changedFiles]
  | cons file rest ih =>
    rw [List.foldlM_cons, value_bind, ih, qualifying_consider, List.append_assoc,
      (isKept_runsOn machine.host).consider .start wrapper settings root selection file past,
      attempts_consider, ← changedFiles_cons]

end Plan

/-! ## The stages of a run -/

namespace Run

variable (machine : Machine)

/-- All that a run needs before it examines files: the working directory is there, the host names
the root of a repository, the configuration there can be read, its globs can be read, and the
wrapper script is a file. -/
structure Ready (root : Path) (config : Config) (settings : Settings) : Prop where
  placed : machine.host.tree.look machine.host.workdir = some .directory
  named : ∃ output, machine.host.output? [] (Repository.rootQuery machine.host) = some output ∧
    root = .ofText (Repository.trimmed output)
  loaded : (Config.load machine.host root []).value = .ok config
  compiled : config.settings = .ok settings
  located : machine.host.tree.isFile machine.host.workdir
    (root.join (.ofText (config.wrapper.on machine.platform))) = true

def changeQueries (root : Path) (settings : Settings) (files : List String) : List Start :=
  (files.filter settings.includes).map (Repository.changeQuery root settings.whitespace)

/-- The candidates that a run examines, behind its first question, and that are reported as
changed. -/
def changedFiles (root : Path) (settings : Settings) (files : List String) : List String :=
  Plan.changedFiles settings root machine.host
    (machine.host.after [] [Repository.rootQuery machine.host]) files

def wrapperStart (root : Path) (config : Config) (mode : Option PassMode)
    (files : List String) : Start where
  program := root.join (.ofText (config.wrapper.on machine.platform))
  arguments :=
    (if config.task.batch then ["-B"] else [])
      ++ [config.task.goal,
        "-D" ++ config.task.property ++ "=" ++ (mode.getD config.mode).join root files]
      ++ config.task.args
  directory := root

/-- The starts that a run asks for, by the stage that it reaches. -/
inductive CallTrace (mode : Option PassMode) (dryRun : Bool) (files : List String) :
    List Start → Prop
  | idle (empty : files = []) : CallTrace mode dryRun files []
  | stranded (named : files ≠ [])
      (gone : machine.host.tree.look machine.host.workdir ≠ some .directory) :
      CallTrace mode dryRun files []
  | unready (named : files ≠ [])
      (placed : machine.host.tree.look machine.host.workdir = some .directory)
      (stopped : ¬ ∃ root config settings, Ready machine root config settings) :
      CallTrace mode dryRun files [Repository.rootQuery machine.host]
  | examined (named : files ≠ []) (root : Path) (config : Config) (settings : Settings)
      (ready : Ready machine root config settings)
      (held : dryRun = true ∨ changedFiles machine root settings files = []) :
      CallTrace mode dryRun files
        (Repository.rootQuery machine.host :: changeQueries root settings files)
  | executed (named : files ≠ []) (root : Path) (config : Config) (settings : Settings)
      (ready : Ready machine root config settings) (wet : dryRun = false)
      (changed : changedFiles machine root settings files ≠ []) :
      CallTrace mode dryRun files
        (Repository.rootQuery machine.host :: changeQueries root settings files
          ++ [wrapperStart machine root config mode (changedFiles machine root settings files)])

section Prepare

variable (host : Host) (mode : Option PassMode) (past : List Started)

theorem load_eq (root : Path) :
    Config.load host root past = Config.load host root [] := by
  unfold Config.load
  split
  · cases host.tree.readText host.workdir (Config.file root) <;> rfl
  · rfl

theorem value_resolveRoot (ask : Action (Except Trouble Path)) :
    (Plan.resolveRoot ask past).value =
      match (ask past).value with
      | .error trouble => .error (.notARepository trouble.chain)
      | .ok root => .ok root := by
  simp only [Plan.resolveRoot, value_bind]
  cases (ask past).value with
  | error trouble => rfl
  | ok found => rfl

theorem attempts_resolveRoot (ask : Action (Except Trouble Path)) :
    (Plan.resolveRoot ask past).attempts = (ask past).attempts := by
  refine attempts_bind_of_quiet past ask fun answer => ?_
  split <;> exact .pure _

theorem currentDirectory_of_placed {host : Host}
    (placed : host.tree.look host.workdir = some .directory) :
    host.currentDirectory = .ok host.workdirPath :=
  if_pos placed

theorem currentDirectory_of_gone {host : Host}
    (gone : host.tree.look host.workdir ≠ some .directory) :
    host.currentDirectory = .error (.system .notFound) :=
  if_neg gone

theorem prepare_of_gone (gone : host.tree.look host.workdir ≠ some .directory) :
    prepare host mode =
      pure (.error (.other (.of (AccessError.system .notFound).message))) := by
  rw [prepare, currentDirectory_of_gone gone]

theorem attempts_prepare (placed : host.tree.look host.workdir = some .directory) :
    (prepare host mode past).attempts = [Repository.rootQuery host] := by
  rw [prepare, currentDirectory_of_placed placed]
  dsimp only
  rw [attempts_bind_of_quiet, attempts_resolveRoot, Repository.attempts_root]
  intro found
  split
  · exact .pure _
  · refine .bind (isKept_isQuiet.load _) fun loaded => ?_
    split
    · exact .pure _
    · split <;> exact .pure _

theorem value_prepare_eq_ok_iff (setup : Setup) :
    (prepare host mode past).value = .ok setup ↔
      ∃ root config settings,
        host.tree.look host.workdir = some .directory ∧
        (Repository.root host host.workdirPath past).value = .ok root ∧
        (Config.load host root []).value = .ok config ∧ config.settings = .ok settings ∧
        setup = ⟨root, config, { settings with mode := mode.getD settings.mode }⟩ := by
  by_cases placed : host.tree.look host.workdir = some .directory
  · rw [prepare, currentDirectory_of_placed placed]
    simp only [value_bind, value_resolveRoot]
    cases found : (Repository.root host host.workdirPath past).value with
    | error trouble => simp
    | ok root =>
      simp only [value_bind, load_eq host (past ++ _)]
      cases loaded : (Config.load host root []).value with
      | error failure => simp [loaded]
      | ok config =>
        dsimp only
        cases compiled : config.settings with
        | error failure => simp [loaded, compiled]
        | ok settings => simp [loaded, compiled, placed, eq_comm]
  · rw [prepare_of_gone host mode placed]
    simp [placed]

end Prepare

/-! ## Plans -/

variable (wrapper : Wrapper) (settings : Settings) (root : Path)

theorem make_of_missing (files : List String) (past : List Started)
    (missing : machine.host.tree.isFile machine.host.workdir
      (root.join (.ofText wrapper.name)) = false) :
    (∃ failure,
        (Plan.make (machine.host.services wrapper) settings root files past).value =
          .error failure) ∧
      (Plan.make (machine.host.services wrapper) settings root files past).attempts = [] := by
  unfold Plan.make
  cases files with
  | nil => simp
  | cons file rest => simp [Host.services, Wrapper.locate, missing]

theorem make_of_found (files : List String) (past : List Started) (named : files ≠ [])
    (found : machine.host.tree.isFile machine.host.workdir
      (root.join (.ofText wrapper.name)) = true) :
    ∃ plan, (Plan.make (machine.host.services wrapper) settings root files past).value = .ok plan ∧
      plan.root = root ∧ plan.wrapper = root.join (.ofText wrapper.name) ∧
      plan.mode = settings.mode ∧
      plan.selection.qualifying = Plan.changedFiles settings root machine.host past files ∧
      (Plan.make (machine.host.services wrapper) settings root files past).attempts =
        changeQueries root settings files := by
  have nonempty : files.isEmpty = false := List.isEmpty_eq_false_iff.mpr named
  have located : (machine.host.services wrapper).locateWrapper root =
      pure (.found (root.join (.ofText wrapper.name))) := by
    simp [Host.services, Wrapper.locate, found]
  simp only [Plan.make, nonempty, located, Bool.false_eq_true, if_false, value_bind, value_pure,
    attempts_bind, attempts_pure, started_pure, List.nil_append, List.append_nil]
  refine ⟨_, rfl, rfl, rfl, rfl, ?_, ?_⟩
  · exact (Plan.qualifying_select_from machine wrapper settings root files {} past).trans
      (List.nil_append _)
  · exact Plan.attempts_select_from machine wrapper settings root files {} past

theorem attempts_execute (plan : Plan) (past : List Started) :
    (Plan.execute (machine.host.services wrapper) settings plan past).attempts =
      match plan.request? with
      | none => []
      | some request => [wrapper.startFor request] := by
  unfold Plan.execute
  cases plan.request? with
  | none => rfl
  | some request =>
    refine (attempts_bind_of_quiet past _ fun answer => ?_).trans
      (wrapper.attempts_apply machine.host request past)
    split
    · exact .pure _
    · split <;> exact .pure _

/-- Carrying a plan out starts the wrapper script once, or not at all if the run is dry or no file
qualified. -/
theorem attempts_carryOut (narrator : Narrator) (dryRun : Bool) (plan : Plan)
    (past : List Started) :
    (carryOut narrator (machine.host.services wrapper) wrapper settings dryRun plan
        past).attempts =
      if dryRun = true ∨ plan.selection.qualifying = [] then []
      else
        [wrapper.startFor
          ⟨plan.root, plan.wrapper, plan.mode.join plan.root plan.selection.qualifying⟩] := by
  by_cases empty : plan.selection.qualifying = []
  · have idle := (Plan.request?_eq_none_iff plan).mpr empty
    simp [carryOut, idle, empty]
  · have asked := Plan.request?_of_qualifying plan empty
    cases dryRun with
    | true => simp [carryOut, asked]
    | false =>
      simp only [carryOut, asked, Bool.false_eq_true, if_false, false_or, if_neg empty]
      rw [attempts_bind, attempts_print, List.nil_append, attempts_bind, attempts_print,
        List.nil_append, attempts_bind_of_quiet, attempts_execute, asked]
      intro outcome
      split
      · exact .bind (.print _) fun _ => .pure _
      · split
        · exact .bind (.log _) fun _ => .bind (.print _) fun _ => .pure _
        · exact .bind (.print _) fun _ => .pure _

/-! ## Whole runs -/

theorem prepare_of_ready (mode : Option PassMode) {root : Path} {config : Config}
    {settings : Settings} (ready : Ready machine root config settings) :
    (prepare machine.host mode []).value =
      .ok ⟨root, config, { settings with mode := mode.getD settings.mode }⟩ := by
  have found := (Repository.value_root_eq_ok_iff machine.host [] root).mpr ready.named
  exact (value_prepare_eq_ok_iff machine.host mode [] _).mpr
    ⟨root, config, settings, ready.placed, found, ready.loaded, ready.compiled, rfl⟩

/-- What has been started once the repository is known. -/
theorem started_prepare {host : Host} (mode : Option PassMode)
    (placed : host.tree.look host.workdir = some .directory) :
    (prepare host mode []).started = host.after [] [Repository.rootQuery host] := by
  rw [← List.nil_append (prepare host mode []).started, (isKept_runsOn host).prepare .start mode [],
    attempts_prepare host mode [] placed]

theorem mode_of_settings {config : Config} {settings : Settings}
    (compiled : config.settings = .ok settings) : settings.mode = config.mode := by
  unfold Config.settings at compiled
  split at compiled
  · cases compiled
  · cases compiled
    rfl

theorem changedFiles_inMode (root : Path) (settings : Settings) (files : List String)
    (mode : PassMode) :
    changedFiles machine root { settings with mode } files =
      changedFiles machine root settings files :=
  Plan.changedFiles_inMode settings root machine.host _ files mode

theorem attempts_format_of_ready (narrator : Narrator) (mode : Option PassMode) (dryRun : Bool)
    {files : List String} (named : files ≠ []) {root : Path} {config : Config}
    {settings : Settings} (ready : Ready machine root config settings) :
    (format machine narrator mode dryRun files []).attempts =
      Repository.rootQuery machine.host :: changeQueries root settings files
        ++ if dryRun = true ∨ changedFiles machine root settings files = [] then []
          else
            [wrapperStart machine root config mode (changedFiles machine root settings files)] := by
  have nonempty : files.isEmpty = false := List.isEmpty_eq_false_iff.mpr named
  have prepared := prepare_of_ready machine mode ready
  -- Neither the files nor the questions about them depend on the mode.
  obtain ⟨plan, made, planRoot, planWrapper, planMode, qualifying, asked⟩ :=
    make_of_found machine (Wrapper.ofConfig config machine.platform (toolOutput narrator))
      { settings with mode := mode.getD settings.mode } root files
      (machine.host.after [] [Repository.rootQuery machine.host]) named ready.located
  have files' : plan.selection.qualifying = changedFiles machine root settings files :=
    qualifying.trans (changedFiles_inMode machine root settings files _)
  have mode' : plan.mode = mode.getD config.mode := by
    rw [planMode, ← mode_of_settings ready.compiled]
  simp only [format, nonempty, Bool.false_eq_true, if_false, attempts_bind,
    attempts_prepare machine.host mode [] ready.placed, List.nil_append,
    started_prepare mode ready.placed, prepared, made, asked, attempts_carryOut, files', mode',
    planRoot, planWrapper]
  rw [List.singleton_append, List.cons_append]
  simp only [wrapperStart, Wrapper.startFor, Wrapper.arguments, Wrapper.ofConfig, List.append_assoc,
    List.cons_append, List.nil_append]
  rfl

theorem attempts_format_of_not_ready (narrator : Narrator) (mode : Option PassMode)
    (dryRun : Bool) {files : List String} (named : files ≠ [])
    (placed : machine.host.tree.look machine.host.workdir = some .directory)
    (stopped : ¬ ∃ root config settings, Ready machine root config settings) :
    (format machine narrator mode dryRun files []).attempts =
      [Repository.rootQuery machine.host] := by
  have nonempty : files.isEmpty = false := List.isEmpty_eq_false_iff.mpr named
  simp only [format, nonempty, Bool.false_eq_true, if_false, attempts_bind,
    attempts_prepare machine.host mode [] placed]
  cases prepared : (prepare machine.host mode []).value with
  | error failure => simp
  | ok setup =>
    obtain ⟨root, config, settings, -, answered, loaded, compiled, rfl⟩ :=
      (value_prepare_eq_ok_iff machine.host mode [] setup).mp prepared
    have missing : machine.host.tree.isFile machine.host.workdir
        (root.join (.ofText (config.wrapper.on machine.platform))) = false := by
      rw [← Bool.not_eq_true]
      intro located
      have found := (Repository.value_root_eq_ok_iff machine.host [] root).mp answered
      exact stopped ⟨root, config, settings, placed, found, loaded, compiled, located⟩
    obtain ⟨⟨failure, failed⟩, noQuestion⟩ := make_of_missing machine
      (Wrapper.ofConfig config machine.platform (toolOutput narrator))
      { settings with mode := mode.getD settings.mode } root files
      ([] ++ (prepare machine.host mode []).started) missing
    simp only [attempts_bind, noQuestion, failed]
    rfl

theorem attempts_format_of_gone (narrator : Narrator) (mode : Option PassMode) (dryRun : Bool)
    (files : List String)
    (gone : machine.host.tree.look machine.host.workdir ≠ some .directory) :
    (format machine narrator mode dryRun files []).attempts = [] := by
  unfold format
  split
  · rfl
  · rw [prepare_of_gone machine.host mode gone]
    rfl

/-- A run asks for the starts of its call trace, in that order, and for no others. -/
theorem callTrace_iff (narrator : Narrator) (mode : Option PassMode) (dryRun : Bool)
    (files : List String) (starts : List Start) :
    CallTrace machine mode dryRun files starts ↔
      starts = (format machine narrator mode dryRun files []).attempts := by
  constructor
  · intro trace
    cases trace with
    | idle empty =>
      subst empty
      rfl
    | stranded named gone =>
      rw [attempts_format_of_gone machine narrator mode dryRun files gone]
    | unready named placed stopped =>
      rw [attempts_format_of_not_ready machine narrator mode dryRun named placed stopped]
    | examined named root config settings ready held =>
      rw [attempts_format_of_ready machine narrator mode dryRun named ready, if_pos held,
        List.append_nil]
    | executed named root config settings ready wet changed =>
      have start : ¬ (dryRun = true ∨ changedFiles machine root settings files = []) := by
        simp [wet, changed]
      rw [attempts_format_of_ready machine narrator mode dryRun named ready, if_neg start]
  · rintro rfl
    by_cases empty : files = []
    · subst empty
      exact .idle rfl
    by_cases placed : machine.host.tree.look machine.host.workdir = some .directory
    · by_cases stopped : ∃ root config settings, Ready machine root config settings
      · obtain ⟨root, config, settings, ready⟩ := stopped
        rw [attempts_format_of_ready machine narrator mode dryRun empty ready]
        by_cases held : dryRun = true ∨ changedFiles machine root settings files = []
        · rw [if_pos held, List.append_nil]
          exact .examined empty root config settings ready held
        · rw [if_neg held]
          obtain ⟨wet, changed⟩ := not_or.mp held
          exact .executed empty root config settings ready (by simpa using wet) changed
      · rw [attempts_format_of_not_ready machine narrator mode dryRun empty placed stopped]
        exact .unready empty placed stopped
    · rw [attempts_format_of_gone machine narrator mode dryRun files placed]
      exact .stranded empty placed

end Run

end StagedFormat
