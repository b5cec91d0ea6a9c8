import StagedFormat.Run

/-!
# Which programs are started

The attempts of a computation are the starts that it asks the host for, whether or not they
succeed; those that do are in the past of what comes next.  For each question of a formatting run
this module says what it asks for and when its answer is of use; the questions are put in terms of
what the host replies, not of how a run goes.
-/

set_option autoImplicit false

namespace StagedFormat

/-! ## Attempts -/

def Event.attempt? : Event → Option Start
  | start wish _ => some wish
  | _ => none

def Traced.attempts {α : Type} (traced : Traced α) : List Start :=
  traced.events.filterMap Event.attempt?

namespace Action

variable {α β : Type} (past : List Started)

@[simp] theorem attempts_pure (value : α) : ((pure value : Action α) past).attempts = [] := rfl

@[simp] theorem attempts_bind (first : Action α) (next : α → Action β) :
    ((first >>= next) past).attempts = (first past).attempts ++
      (next (first past).value (past ++ (first past).started)).attempts := by
  simp [Traced.attempts]

theorem bind_congr_at {past : List Started} {first other : Action α}
    (same : first past = other past) (next : α → Action β) :
    (first >>= next) past = (other >>= next) past := by
  simp only [bind, same]

@[simp] theorem value_map (change : α → β) (action : Action α) :
    ((change <$> action) past).value = change (action past).value := rfl

@[simp] theorem attempts_map (change : α → β) (action : Action α) :
    ((change <$> action) past).attempts = (action past).attempts := by
  rw [← bind_pure_comp, attempts_bind, attempts_pure, List.append_nil]

@[simp] theorem attempts_log (entry : LogRecord) : (log entry past).attempts = [] := rfl

@[simp] theorem attempts_print (text : String) : (print text past).attempts = [] := rfl

@[simp] theorem attempts_emit_stdout (bytes : List UInt8) :
    (emit (.stdout bytes) past).attempts = [] := rfl

@[simp] theorem attempts_emit_stderr (bytes : List UInt8) :
    (emit (.stderr bytes) past).attempts = [] := rfl

@[simp] theorem attempts_start (host : Host) (wish : Start) :
    (start host wish past).attempts = [wish] := rfl

@[simp] theorem started_log (entry : LogRecord) : (log entry past).started = [] := rfl

@[simp] theorem started_print (text : String) : (print text past).started = [] := rfl

end Action

/-! ## Properties of all steps -/

/-- A property that plain steps have, and that stays when one action follows another. -/
structure Action.IsKept (P : ∀ {α : Type}, Action α → Prop) : Prop where
  pure : ∀ {α : Type} (value : α), P (Pure.pure value)
  log : ∀ entry, P (Action.log entry)
  bind : ∀ {α β : Type} {first : Action α} {next : α → Action β},
    P first → (∀ value, P (next value)) → P (first >>= next)

namespace Action.IsKept

variable {P : ∀ {α : Type}, Action α → Prop} (kept : IsKept P) {host : Host}

include kept

theorem foldlM {α β : Type} {step : β → α → Action β}
    (goes : ∀ state item, P (step state item)) (items : List α) (state : β) :
    P (items.foldlM step state) := by
  induction items generalizing state with
  | nil => exact kept.pure state
  | cons item rest ih => exact kept.bind (goes state item) ih

theorem load (root : Path) : P (Config.load host root) := by
  unfold Config.load
  split
  · split <;> exact kept.pure _
  · exact kept.bind (kept.log _) fun _ => kept.pure _

theorem resolveRoot {ask : Action (Except Trouble Path)} (asks : P ask) :
    P (Plan.resolveRoot ask) := by
  refine kept.bind asks fun answer => ?_
  split <;> exact kept.pure _

theorem execute {services : Services Action} (settings : Settings) (plan : Plan)
    (applies : ∀ request, P (services.apply request)) :
    P (Plan.execute services settings plan) := by
  unfold Plan.execute
  split
  · exact kept.pure _
  · refine kept.bind (applies _) fun answer => ?_
    split
    · exact kept.pure _
    · split <;> exact kept.pure _

theorem relay (wrapper : Wrapper) (completion : Completion)
    (notes : ∀ bytes, P (emit (.stderr bytes)))
    (prints : wrapper.output = .shared → ∀ bytes, P (emit (.stdout bytes))) :
    P (wrapper.relay completion) := by
  unfold Wrapper.relay
  split
  · exact kept.bind (prints ‹_› _) fun _ => notes _
  · exact kept.bind (notes _) fun _ => notes _

section

variable (starts : ∀ wish, P (start host wish))

include starts

theorem git (directory : Path) (arguments : List String) :
    P (Repository.git host directory arguments) := by
  refine kept.bind (kept.log _) fun _ => kept.bind (starts _) fun answer => ?_
  split <;> exact kept.pure _

theorem root (workdir : Path) : P (Repository.root host workdir) := by
  refine kept.bind (kept.git starts workdir _) fun answer => ?_
  split
  · exact kept.pure _
  · split <;> exact kept.pure _

theorem hooksDirectory (workdir : Path) : P (Repository.hooksDirectory host workdir) := by
  refine kept.bind (kept.git starts workdir _) fun answer => ?_
  split
  · exact kept.pure _
  · split <;> exact kept.pure _

theorem hasChanges (root : Path) (file : String) (whitespace : WhitespacePolicy) :
    P (Repository.hasChanges host root file whitespace) := by
  refine kept.bind (kept.git starts root _) fun answer => ?_
  split
  · exact kept.pure _
  · split
    · exact kept.pure _
    · exact kept.bind (kept.log _) fun _ => kept.pure _

theorem prepare (mode : Option PassMode) : P (Run.prepare host mode) := by
  unfold Run.prepare
  split
  · exact kept.pure _
  · refine kept.bind (kept.resolveRoot (kept.root starts _)) fun found => ?_
    split
    · exact kept.pure _
    · refine kept.bind (kept.load _) fun loaded => ?_
      split
      · exact kept.pure _
      · split <;> exact kept.pure _

theorem consider (wrapper : Wrapper) (settings : Settings) (root : Path)
    (selection : Selection) (file : String) :
    P (Plan.consider (host.services wrapper) settings root selection file) := by
  unfold Plan.consider
  split
  · refine kept.bind (kept.hasChanges starts root file _) fun answer => ?_
    split
    · exact kept.pure _
    · exact kept.pure _
    · exact kept.bind (kept.log _) fun _ => kept.pure _
  · exact kept.bind (kept.log _) fun _ => kept.pure _

theorem make (wrapper : Wrapper) (settings : Settings) (root : Path) (files : List String) :
    P (Plan.make (host.services wrapper) settings root files) := by
  unfold Plan.make
  split
  · exact kept.pure _
  · refine kept.bind (kept.pure _) fun found => ?_
    split
    · exact kept.pure _
    · exact kept.bind (kept.foldlM (kept.consider starts wrapper settings root) files _)
        fun _ => kept.pure _

theorem apply (wrapper : Wrapper) (request : Request)
    (relays : ∀ completion, P (wrapper.relay completion)) :
    P (wrapper.apply host request) := by
  refine kept.bind (kept.log _) fun _ => kept.bind (starts _) fun answer => ?_
  split
  · exact kept.pure _
  · exact kept.bind (relays _) fun _ => kept.bind (kept.log _) fun _ => kept.pure _

end

end Action.IsKept

namespace Action

variable {α β : Type}

/-- An action that asks for no program. -/
def IsQuiet (action : Action α) : Prop :=
  ∀ past, (action past).attempts = []

theorem attempts_bind_of_quiet (past : List Started) (first : Action α) {next : α → Action β}
    (quiet : ∀ value, IsQuiet (next value)) :
    ((first >>= next) past).attempts = (first past).attempts := by
  rw [attempts_bind, quiet, List.append_nil]

theorem IsQuiet.emit {event : Event} (quiet : event.attempt? = none) :
    IsQuiet (Action.emit event) :=
  fun _ => by simp [Traced.attempts, Action.emit, quiet]

theorem IsQuiet.log (entry : LogRecord) : IsQuiet (Action.log entry) := .emit rfl

theorem IsQuiet.print (text : String) : IsQuiet (Action.print text) := .emit rfl

theorem IsQuiet.pure (value : α) : IsQuiet (Pure.pure value) := fun _ => rfl

theorem IsQuiet.bind {first : Action α} {next : α → Action β} (begins : IsQuiet first)
    (goes : ∀ value, IsQuiet (next value)) : IsQuiet (first >>= next) :=
  fun past => (attempts_bind_of_quiet past first goes).trans (begins past)

theorem isKept_isQuiet : IsKept IsQuiet := ⟨.pure, .log, .bind⟩

end Action

/-! ## What a host replies -/

namespace Host

/-- What a host answers to the wish to run a program: what the program did, or why it could not be
started. -/
def answer (host : Host) (past : List Started) (wish : Start) : Except AccessError Completion :=
  (host.start past wish).map Prod.snd

/-- The output of a program that a host is asked to start, provided that it can be started and
reports success. -/
def output? (host : Host) (past : List Started) (wish : Start) : Option (List UInt8) :=
  match host.answer past wish with
  | .error _ => none
  | .ok completion => if completion.ending = .exited 0 then some completion.stdout else none

/-- The past once a program has been asked for as well. -/
def next (host : Host) (past : List Started) (wish : Start) : List Started :=
  match host.start past wish with
  | .error _ => past
  | .ok (started, _) => past ++ [started]

def after (host : Host) (past : List Started) (wishes : List Start) : List Started :=
  wishes.foldl host.next past

@[simp] theorem after_nil (host : Host) (past : List Started) : host.after past [] = past := rfl

theorem after_append (host : Host) (past : List Started) (wishes others : List Start) :
    host.after past (wishes ++ others) = host.after (host.after past wishes) others :=
  List.foldl_append

theorem start_eq_ok_iff {host : Host} {past : List Started} {wish : Start} {started : Started}
    {completion : Completion} :
    host.start past wish = .ok (started, completion) ↔
      host.resolve wish = .ok started ∧ host.perform past started = .ok completion := by
  unfold start
  cases host.resolve wish with
  | error error => simp [bind, Except.bind]
  | ok process =>
    simp only [bind, Except.bind, Except.ok.injEq]
    constructor
    · intro starts
      split at starts
      · cases starts
      · rename_i done performed
        cases starts
        exact ⟨rfl, performed⟩
    · rintro ⟨rfl, performed⟩
      rw [performed]

theorem answer_eq_ok_iff {host : Host} {past : List Started} {wish : Start}
    {completion : Completion} :
    host.answer past wish = .ok completion ↔
      ∃ started, host.start past wish = .ok (started, completion) := by
  rw [answer]
  cases host.start past wish with
  | error error => simp [Except.map]
  | ok process => simp [Except.map, Prod.ext_iff]

theorem answer_eq_error_iff {host : Host} {past : List Started} {wish : Start}
    {error : AccessError} :
    host.answer past wish = .error error ↔ host.start past wish = .error error := by
  rw [answer]
  cases host.start past wish with
  | error reason => simp [Except.map]
  | ok process => simp [Except.map]

end Host

namespace Action

variable {α β : Type} {host : Host}

@[simp] theorem value_start (host : Host) (wish : Start) (past : List Started) :
    (start host wish past).value = host.answer past wish := rfl

/-- Those of the attempts are started that the host lets start. -/
def RunsOn (host : Host) (action : Action α) : Prop :=
  ∀ past, past ++ (action past).started = host.after past (action past).attempts

theorem RunsOn.pure (value : α) : RunsOn host (Pure.pure value) :=
  fun past => List.append_nil past

theorem RunsOn.bind {first : Action α} {next : α → Action β} (begins : RunsOn host first)
    (goes : ∀ value, RunsOn host (next value)) : RunsOn host (first >>= next) := by
  intro past
  rw [started_bind, attempts_bind, ← List.append_assoc, goes, begins, Host.after_append]

theorem RunsOn.emit {event : Event} (quiet : event.attempt? = none) :
    RunsOn host (Action.emit event) := by
  intro past
  cases event with
  | start wish outcome => cases quiet
  | _ => exact List.append_nil past

theorem RunsOn.log (entry : LogRecord) : RunsOn host (Action.log entry) := .emit rfl

theorem RunsOn.print (text : String) : RunsOn host (Action.print text) := .emit rfl

theorem RunsOn.start (wish : Start) : RunsOn host (Action.start host wish) := by
  intro past
  rw [attempts_start, Host.after, List.foldl_cons, List.foldl_nil, Host.next, Traced.started]
  cases starts : host.start past wish with
  | error error => simp [Action.start, starts, Event.started?, Except.map]
  | ok process => simp [Action.start, starts, Event.started?, Except.map]

theorem isKept_runsOn (host : Host) : IsKept (RunsOn host) := ⟨.pure, .log, .bind⟩

end Action

theorem Ending.isSuccess_iff (ending : Ending) :
    ending.isSuccess = true ↔ ending = .exited 0 := by
  cases ending with
  | exited code => simp [isSuccess, code?]
  | signalled number name => simp [isSuccess, code?]

/-! ## Questions -/

namespace Repository

open StagedFormat.Action

def rootQuery (host : Host) : Start :=
  ⟨.ofText "git", ["rev-parse", "--show-toplevel"], host.workdirPath⟩

def changeQuery (root : Path) (whitespace : WhitespacePolicy) (file : String) : Start :=
  ⟨.ofText "git", ["diff", "--cached", "--numstat", whitespace.flag, "--", file], root⟩

/-- Whether the host answers a question about a file with a change.  No answer is no change. -/
def reportsChange (host : Host) (past : List Started) (root : Path)
    (whitespace : WhitespacePolicy) (file : String) : Bool :=
  match host.output? past (changeQuery root whitespace file) with
  | some output => Numstat.hasChanges (Text.decodeLossy output)
  | none => false

section

variable (host : Host) (directory : Path) (arguments : List String) (past : List Started)

theorem attempts_git :
    (git host directory arguments past).attempts = [⟨.ofText "git", arguments, directory⟩] := by
  rw [git, attempts_bind, attempts_log, List.nil_append, attempts_bind_of_quiet, attempts_start]
  intro answer
  cases answer <;> exact .pure _

theorem value_git :
    (git host directory arguments past).value =
      match host.answer past ⟨.ofText "git", arguments, directory⟩ with
      | .error error => .error (.of error.message)
      | .ok completion => .ok completion := by
  simp only [git, value_bind, started_log, List.append_nil, value_start]
  cases host.answer past ⟨.ofText "git", arguments, directory⟩ with
  | error error => rfl
  | ok completion => rfl

end

theorem value_git_of_output? {host : Host} {directory : Path} {arguments : List String}
    {past : List Started} {output : List UInt8}
    (printed : host.output? past ⟨.ofText "git", arguments, directory⟩ = some output) :
    ∃ completion, (git host directory arguments past).value = .ok completion ∧
      completion.ending.isSuccess = true ∧ completion.stdout = output := by
  rw [value_git]
  unfold Host.output? at printed
  cases answered : host.answer past ⟨.ofText "git", arguments, directory⟩ with
  | error error => simp [answered] at printed
  | ok completion =>
    simp only [answered] at printed
    split at printed
    · rename_i success
      exact ⟨_, rfl, (Ending.isSuccess_iff _).mpr success, Option.some.inj printed⟩
    · cases printed

variable (host : Host) (past : List Started)

theorem attempts_root : (root host host.workdirPath past).attempts = [rootQuery host] := by
  rw [root, attempts_bind_of_quiet, attempts_git, rootQuery]
  intro answer
  split
  · exact .pure _
  · split <;> exact .pure _

theorem value_root_eq_ok_iff (found : Path) :
    (root host host.workdirPath past).value = .ok found ↔
      ∃ output, host.output? past (rootQuery host) = some output ∧
        found = .ofText (trimmed output) := by
  simp only [root, value_bind, value_git, Host.output?, rootQuery]
  cases host.answer past ⟨.ofText "git", ["rev-parse", "--show-toplevel"], host.workdirPath⟩ with
  | error error => simp
  | ok completion =>
    by_cases success : completion.ending = .exited 0
    · have passed := (Ending.isSuccess_iff _).mpr success
      simp only [if_pos passed, if_pos success, value_pure]
      simp [eq_comm]
    · have failed := mt (Ending.isSuccess_iff _).mp success
      simp only [if_neg failed, if_neg success, value_pure]
      simp

theorem attempts_hasChanges (root : Path) (file : String) (whitespace : WhitespacePolicy) :
    (hasChanges host root file whitespace past).attempts = [changeQuery root whitespace file] := by
  rw [hasChanges, attempts_bind_of_quiet, attempts_git, changeQuery]
  intro answer
  split
  · exact .pure _
  · split
    · exact .pure _
    · exact .bind (.log _) fun _ => .pure _

theorem value_hasChanges_eq_ok_true_iff (root : Path) (file : String)
    (whitespace : WhitespacePolicy) :
    (hasChanges host root file whitespace past).value = .ok true ↔
      reportsChange host past root whitespace file = true := by
  simp only [hasChanges, value_bind, value_git, reportsChange, Host.output?, changeQuery]
  cases host.answer past ⟨.ofText "git",
      ["diff", "--cached", "--numstat", whitespace.flag, "--", file], root⟩ with
  | error error => simp
  | ok completion =>
    by_cases success : completion.ending = .exited 0
    · have passed := (Ending.isSuccess_iff _).mpr success
      simp only [if_pos passed, if_pos success, value_pure]
      simp
    · have failed := mt (Ending.isSuccess_iff _).mp success
      simp only [if_neg failed, if_neg success, value_bind, value_pure]
      simp

end Repository

/-! ## The build tool -/

namespace Wrapper

open StagedFormat.Action

variable (wrapper : Wrapper) (host : Host) (request : Request) (past : List Started)

def startFor : Start :=
  ⟨request.wrapper, wrapper.arguments request.filesArgument, request.root⟩

theorem attempts_apply :
    (wrapper.apply host request past).attempts = [wrapper.startFor request] := by
  rw [apply, attempts_bind, attempts_log, List.nil_append, attempts_bind_of_quiet, attempts_start,
    startFor]
  intro answer
  split
  · exact .pure _
  · exact .bind (isKept_isQuiet.relay wrapper _ (fun _ => .emit rfl) fun _ _ => .emit rfl) fun _ =>
      .bind (.log _) fun _ => .pure _

theorem value_apply :
    (wrapper.apply host request past).value =
      match host.answer past (wrapper.startFor request) with
      | .error error => .error (.of error.message)
      | .ok completion => .ok (completion.ending.code?.getD 1) := by
  simp only [apply, value_bind, started_log, List.append_nil, value_start, startFor]
  cases host.answer past
      ⟨request.wrapper, wrapper.arguments request.filesArgument, request.root⟩ with
  | error error => rfl
  | ok completion => rfl

end Wrapper

end StagedFormat
