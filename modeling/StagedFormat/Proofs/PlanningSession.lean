import StagedFormat.Plan.Phases

/-!
# Sessions of planning and executing

A session finds the repository, makes plans and executes plans in any order, for as long as it
likes, and chooses each step by the replies to the steps before.  What is asked of the services may
be answered in any way.  `Step.ComesTo` says of one step what it calls and what it comes to, and
`Session.run_separates` says it of every step of every session: the build tool is requested once
for each step that executes a plan with files, and never by any other step.
-/

set_option autoImplicit false

namespace StagedFormat

def ServiceCall.isRequest : ServiceCall → Bool
  | .apply _ => true
  | _ => false

/-- A step of a session.  A plan that is executed need not be one that was made. -/
inductive Step
  | resolveRoot
  | makePlan (root : Path) (files : List String)
  | executePlan (plan : Plan)

namespace Step

def Reply : Step → Type
  | resolveRoot => Except Failure Path
  | makePlan _ _ => Except Failure Plan
  | executePlan _ => Except Failure Outcome

def run {m : Type → Type} [Monad m] (services : Services m) (settings : Settings) :
    (step : Step) → m step.Reply
  | resolveRoot => Plan.resolveRoot services.repositoryRoot
  | makePlan root files => Plan.make services settings root files
  | executePlan plan => Plan.execute services settings plan

def executes : Step → Bool
  | executePlan _ => true
  | _ => false

def hasFiles : Step → Bool
  | executePlan plan => !plan.selection.qualifying.isEmpty
  | _ => false

end Step

/-- Steps that are chosen by the replies to the steps before. -/
inductive Session
  | finished
  | take (step : Step) (next : step.Reply → Session)

/-- A step that was taken, with the services as they were before and after it. -/
structure TakenStep (σ : Type) where
  step : Step
  before : Recording σ
  reply : step.Reply
  after : Recording σ

variable {σ : Type}

def TakenStep.calls (taken : TakenStep σ) : List ServiceCall :=
  taken.after.calls.drop taken.before.calls.length

def Session.run (oracle : Oracle σ) (settings : Settings) :
    Session → Recording σ → List (TakenStep σ) × Recording σ
  | finished, recording => ([], recording)
  | take step next, before =>
    let (reply, after) := step.run (.recorded oracle) settings before
    let (later, final) := (next reply).run oracle settings after
    (⟨step, before, reply, after⟩ :: later, final)

/-! ## What one step calls and comes to -/

section Specification

variable (oracle : Oracle σ) (settings : Settings)

inductive Resolves (state : σ) : List ServiceCall → Except Failure Path → Prop
  | found (root : Path) (answered : (oracle.repositoryRoot state).1 = .ok root) :
      Resolves state [.repositoryRoot] (.ok root)
  | lost (trouble : Trouble) (answered : (oracle.repositoryRoot state).1 = .error trouble) :
      Resolves state [.repositoryRoot] (.error (.notARepository trouble.chain))

/-- Planning fails without candidates and without a wrapper script.  Otherwise it asks about every
candidate that is included, each time it is named. -/
inductive Plans (root : Path) (files : List String) (state : σ) :
    List ServiceCall → Except Failure Plan → Prop
  | unnamed (empty : files = []) : Plans root files state [] (.error .noFiles)
  | missing (expected : Path) (named : files ≠ [])
      (answered : (oracle.locateWrapper root state).1 = .missing expected) :
      Plans root files state [.locateWrapper root] (.error (.wrapperMissing expected))
  | made (wrapper : Path) (selection : Selection) (named : files ≠ [])
      (answered : (oracle.locateWrapper root state).1 = .found wrapper) :
      Plans root files state
        (.locateWrapper root ::
          (files.filter settings.includes).map (.hasChanges root · settings.whitespace))
        (.ok ⟨root, wrapper, settings.mode, selection⟩)

inductive Answers (plan : Plan) : Except Trouble Int → Except Failure Outcome → Prop
  | formatted : Answers plan (.ok 0) (.ok (.formatted plan.selection.qualifying.length))
  | toolFailed (code : Int) (failed : code ≠ 0) :
      Answers plan (.ok code) (.error (.toolFailed settings.goal code))
  | notStarted (trouble : Trouble) :
      Answers plan (.error trouble) (.error (.notStarted plan.wrapper trouble.chain))

/-- Executing a plan that has files requests the build tool once, with all of them. -/
inductive Executes (plan : Plan) (state : σ) :
    List ServiceCall → Except Failure Outcome → Prop
  | idle (empty : plan.selection.qualifying = []) :
      Executes plan state [] (.ok .nothingToFormat)
  | requested (request : Request) (answer : Except Trouble Int)
      (outcome : Except Failure Outcome) (changed : plan.selection.qualifying ≠ [])
      (asked : request =
        ⟨plan.root, plan.wrapper, plan.mode.join plan.root plan.selection.qualifying⟩)
      (answered : (oracle.apply request state).1 = answer)
      (comes : Answers settings plan answer outcome) :
      Executes plan state [.apply request] outcome

def Step.ComesTo : (step : Step) → σ → List ServiceCall → step.Reply → Prop
  | resolveRoot => Resolves oracle
  | makePlan root files => Plans oracle settings root files
  | executePlan plan => Executes oracle settings plan

end Specification

variable {oracle : Oracle σ} {settings : Settings}

namespace Step

/-- Only steps that execute a plan call the build tool, and they call nothing else. -/
theorem ComesTo.isRequest {step : Step} {state : σ} {calls : List ServiceCall}
    {reply : step.Reply} (comes : step.ComesTo oracle settings state calls reply) :
    ∀ call ∈ calls, call.isRequest = step.executes := by
  intro call called
  cases step with
  | resolveRoot =>
    cases comes with
    | found root answered => rw [List.mem_singleton.mp called]; rfl
    | lost trouble answered => rw [List.mem_singleton.mp called]; rfl
  | makePlan root files =>
    cases comes with
    | unnamed empty => cases called
    | missing expected named answered => rw [List.mem_singleton.mp called]; rfl
    | made wrapper selection named answered =>
      rcases List.mem_cons.mp called with rfl | later
      · rfl
      · obtain ⟨file, -, rfl⟩ := List.mem_map.mp later
        rfl
  | executePlan plan =>
    cases comes with
    | idle empty => cases called
    | requested request answer outcome changed asked answered comes =>
      rw [List.mem_singleton.mp called]; rfl

theorem ComesTo.countP_isRequest {step : Step} {state : σ} {calls : List ServiceCall}
    {reply : step.Reply} (comes : step.ComesTo oracle settings state calls reply) :
    calls.countP ServiceCall.isRequest = if step.hasFiles then 1 else 0 := by
  by_cases executing : step.executes = true
  · cases step with
    | resolveRoot => cases executing
    | makePlan root files => cases executing
    | executePlan plan =>
      cases comes with
      | idle empty => simp [hasFiles, empty]
      | requested request answer outcome changed asked answered comes =>
        simp [hasFiles, changed, ServiceCall.isRequest]
  · have without : step.hasFiles = false := by
      cases step with
      | resolveRoot => rfl
      | makePlan root files => rfl
      | executePlan plan => exact absurd rfl executing
    rw [without, if_neg Bool.false_ne_true, List.countP_eq_zero]
    intro call called
    rwa [comes.isRequest call called]

end Step

/-! ## Steps with recorded services -/

namespace Recording

variable {α β : Type}

theorem bind_apply (first : StateM (Recording σ) α) (next : α → StateM (Recording σ) β)
    (before : Recording σ) : (first >>= next) before = next (first before).1 (first before).2 :=
  rfl

theorem pure_apply (value : α) (before : Recording σ) :
    (pure value : StateM (Recording σ) α) before = (value, before) :=
  rfl

end Recording

open Recording

namespace Plan

theorem comesTo_resolveRoot (before : Recording σ) :
    ∃ calls, (resolveRoot (Services.recorded oracle).repositoryRoot before).2.calls =
        before.calls ++ calls ∧
      Resolves oracle before.state calls
        (resolveRoot (Services.recorded oracle).repositoryRoot before).1 := by
  simp only [resolveRoot, bind_apply, Services.recorded, answer]
  cases answered : (oracle.repositoryRoot before.state).1 with
  | error trouble => exact ⟨_, rfl, .lost trouble answered⟩
  | ok root => exact ⟨_, rfl, .found root answered⟩

theorem calls_consider (root : Path) (selection : Selection) (file : String)
    (before : Recording σ) :
    (consider (Services.recorded oracle) settings root selection file before).2.calls =
      before.calls ++
        if settings.includes file then [.hasChanges root file settings.whitespace] else [] := by
  unfold consider
  by_cases included : settings.includes file = true
  · simp only [if_pos included, bind_apply, Services.recorded, answer]
    cases (oracle.hasChanges root file settings.whitespace before.state).1 with
    | error trouble => rfl
    | ok changed => cases changed <;> rfl
  · simp only [if_neg included, List.append_nil]
    rfl

theorem calls_select_from (root : Path) (files : List String) (selection : Selection)
    (before : Recording σ) :
    (files.foldlM (consider (Services.recorded oracle) settings root) selection
        before).2.calls =
      before.calls ++
        (files.filter settings.includes).map (.hasChanges root · settings.whitespace) := by
  induction files generalizing selection before with
  | nil => simp [pure_apply]
  | cons file rest ih =>
    rw [List.foldlM_cons, bind_apply, ih, calls_consider, List.append_assoc]
    by_cases included : settings.includes file = true
    · simp [included]
    · simp [included]

theorem comesTo_make (root : Path) (files : List String) (before : Recording σ) :
    ∃ calls, (make (Services.recorded oracle) settings root files before).2.calls =
        before.calls ++ calls ∧
      Plans oracle settings root files before.state calls
        (make (Services.recorded oracle) settings root files before).1 := by
  by_cases empty : files = []
  · subst empty
    exact ⟨[], (List.append_nil _).symm, .unnamed rfl⟩
  · have named : files.isEmpty = false := List.isEmpty_eq_false_iff.mpr empty
    have asked : (Services.recorded oracle).locateWrapper root before =
        ((oracle.locateWrapper root before.state).1,
          { before with
            state := (oracle.locateWrapper root before.state).2
            calls := before.calls ++ [.locateWrapper root] }) := rfl
    simp only [make, named, Bool.false_eq_true, if_false, bind_apply, asked]
    cases answered : (oracle.locateWrapper root before.state).1 with
    | missing expected => exact ⟨_, rfl, .missing expected empty answered⟩
    | found wrapper =>
      refine ⟨_, ?_, .made wrapper _ empty answered⟩
      simp only [bind_apply, pure_apply, select]
      rw [calls_select_from, List.append_assoc, List.singleton_append]

theorem comesTo_execute (plan : Plan) (before : Recording σ) :
    ∃ calls, (execute (Services.recorded oracle) settings plan before).2.calls =
        before.calls ++ calls ∧
      Executes oracle settings plan before.state calls
        (execute (Services.recorded oracle) settings plan before).1 := by
  by_cases empty : plan.selection.qualifying = []
  · have idle := (request?_eq_none_iff plan).mpr empty
    simp only [execute, idle]
    exact ⟨[], (List.append_nil _).symm, .idle empty⟩
  · have asked := request?_of_qualifying plan empty
    simp only [execute, asked, bind_apply, Services.recorded, answer]
    cases answered : (oracle.apply
        ⟨plan.root, plan.wrapper, plan.mode.join plan.root plan.selection.qualifying⟩
        before.state).1 with
    | error trouble =>
      exact ⟨_, rfl, .requested _ _ _ empty rfl answered (.notStarted trouble)⟩
    | ok code =>
      by_cases success : code = 0
      · subst success
        exact ⟨_, rfl, .requested _ _ _ empty rfl answered .formatted⟩
      · simp only [if_neg success]
        exact ⟨_, rfl, .requested _ _ _ empty rfl answered (.toolFailed code success)⟩

end Plan

theorem Step.comesTo_run (oracle : Oracle σ) (settings : Settings) (step : Step)
    (before : Recording σ) :
    ∃ calls, (step.run (Services.recorded oracle) settings before).2.calls =
        before.calls ++ calls ∧
      step.ComesTo oracle settings before.state calls
        (step.run (Services.recorded oracle) settings before).1 := by
  cases step with
  | resolveRoot => exact Plan.comesTo_resolveRoot before
  | makePlan root files => exact Plan.comesTo_make root files before
  | executePlan plan => exact Plan.comesTo_execute plan before

/-! ## Sessions -/

/-- Every step of a session calls what a step of its kind calls and comes to what such a step comes
to, by the answers that it gets.  So the build tool is requested as often as a plan with files is
executed. -/
theorem Session.run_separates (oracle : Oracle σ) (settings : Settings) (session : Session)
    (start : Recording σ) :
    ∃ taken final, session.run oracle settings start = (taken, final) ∧
      final.calls = start.calls ++ taken.flatMap TakenStep.calls ∧
      (taken.flatMap TakenStep.calls).countP ServiceCall.isRequest =
        taken.countP (·.step.hasFiles) ∧
      ∀ one ∈ taken,
        one.step.ComesTo oracle settings one.before.state one.calls one.reply ∧
        ∀ call ∈ one.calls, call.isRequest = one.step.executes := by
  -- Each step starts with what the steps before it recorded, so the session is unfolded for every
  -- recording at once.
  induction session generalizing start with
  | finished => exact ⟨[], start, rfl, by simp, rfl, by simp⟩
  | take step next ih =>
    obtain ⟨called, extended, comes⟩ := step.comesTo_run oracle settings start
    obtain ⟨later, final, ran, total, counted, lawful⟩ :=
      ih (step.run (.recorded oracle) settings start).1
        (step.run (.recorded oracle) settings start).2
    let first : TakenStep σ := ⟨step, start, (step.run (.recorded oracle) settings start).1,
      (step.run (.recorded oracle) settings start).2⟩
    have calls : first.calls = called := by
      simp only [first, TakenStep.calls, extended, List.drop_left]
    refine ⟨first :: later, final, ?_, ?_, ?_, ?_⟩
    · exact congrArg (fun rest => (first :: rest.1, rest.2)) ran
    · rw [total, extended, List.flatMap_cons, calls, List.append_assoc]
    · rw [List.flatMap_cons, calls, List.countP_append, counted, comes.countP_isRequest,
        List.countP_cons, Nat.add_comm]
    · intro one member
      rcases List.mem_cons.mp member with rfl | among
      · rw [calls]
        exact ⟨comes, comes.isRequest⟩
      · exact lawful one among

end StagedFormat
