import StagedFormat.Proofs.PlanningSession

/-!
# Where each candidate ends up

A plan takes every candidate each time it is named, and either keeps it or skips it for a reason.
A `Trial` is one naming of a candidate with the reply to the question about it, if there was one;
`Plan.make_sorts_out` says that the trials alone decide on the selection, in their order, and that
files which are answered for on their own do not influence one another.
-/

set_option autoImplicit false

namespace StagedFormat

/-! ## Trials -/

/-- One naming of a candidate.  Candidates that are not included are not asked about. -/
structure Trial where
  file : String
  reply : Option (Except Trouble Bool)

namespace Trial

def isKept (trial : Trial) : Bool :=
  match trial.reply with
  | some (.ok true) => true
  | _ => false

def skipped? (trial : Trial) : Option SkippedFile :=
  match trial.reply with
  | some (.ok true) => none
  | some _ => some ⟨trial.file, .whitespaceOnly⟩
  | none => some ⟨trial.file, .notIncluded⟩

end Trial

def Selection.ofTrials (trials : List Trial) : Selection where
  qualifying := (trials.filter Trial.isKept).map Trial.file
  skipped := trials.filterMap Trial.skipped?

theorem Selection.ofTrials_append (left right : List Trial) :
    ofTrials (left ++ right) =
      ⟨(ofTrials left).qualifying ++ (ofTrials right).qualifying,
        (ofTrials left).skipped ++ (ofTrials right).skipped⟩ := by
  simp [ofTrials]

/-- A file is kept or skipped as often as it is named. -/
theorem Selection.count_ofTrials (trials : List Trial) (file : String) :
    (ofTrials trials).qualifying.count file
        + ((ofTrials trials).skipped.map SkippedFile.file).count file =
      (trials.map Trial.file).count file := by
  simp only [ofTrials]
  induction trials with
  | nil => rfl
  | cons trial rest ih =>
    obtain ⟨name, reply⟩ := trial
    rcases reply with _ | _ | _ | _ <;>
      simp only [List.filter_cons, List.filterMap_cons, List.map_cons, List.count_cons,
        Trial.isKept, Trial.skipped?, Bool.false_eq_true, if_false, if_true] <;>
      omega

variable {σ : Type}

section Replies

variable (oracle : Oracle σ) (settings : Settings) (root : Path)

/-- The replies to questions about files that are asked one after another. -/
def Oracle.replies : List String → σ → List (Except Trouble Bool)
  | [], _ => []
  | file :: rest, state =>
    let (reply, next) := oracle.hasChanges root file settings.whitespace state
    reply :: replies rest next

/-- Every candidate is tried each time it is named.  The included ones are asked about, in their
order, and each has the reply to its own question. -/
structure TriedBy (files : List String) (state : σ) (trials : List Trial) : Prop where
  named : trials.map Trial.file = files
  asked : ∀ trial ∈ trials, trial.reply.isSome = settings.includes trial.file
  answered : trials.filterMap Trial.reply =
    oracle.replies settings root (files.filter settings.includes) state

end Replies

variable {oracle : Oracle σ} {settings : Settings} {root : Path}

namespace TriedBy

theorem cons_excluded {file : String} {rest : List String} {state : σ} {trials : List Trial}
    (excluded : settings.includes file = false)
    (tried : TriedBy oracle settings root rest state trials) :
    TriedBy oracle settings root (file :: rest) state (⟨file, none⟩ :: trials) where
  named := by rw [List.map_cons, tried.named]
  asked := by
    intro trial member
    rcases List.mem_cons.mp member with rfl | later
    · exact excluded.symm
    · exact tried.asked trial later
  answered := by simpa [excluded] using tried.answered

theorem cons_included {file : String} {rest : List String} {state : σ} {trials : List Trial}
    (included : settings.includes file = true)
    (tried : TriedBy oracle settings root rest
      (oracle.hasChanges root file settings.whitespace state).2 trials) :
    TriedBy oracle settings root (file :: rest) state
      (⟨file, some (oracle.hasChanges root file settings.whitespace state).1⟩ :: trials) where
  named := by rw [List.map_cons, tried.named]
  asked := by
    intro trial member
    rcases List.mem_cons.mp member with rfl | later
    · exact included.symm
    · exact tried.asked trial later
  answered := by simp [included, tried.answered, Oracle.replies]

end TriedBy

namespace Plan

open Recording

variable (oracle) (settings) (root)

theorem consider_of_excluded (selection : Selection) (file : String) (before : Recording σ)
    (excluded : settings.includes file = false) :
    (consider (Services.recorded oracle) settings root selection file before).1 =
        selection.skip file .notIncluded ∧
      (consider (Services.recorded oracle) settings root selection file before).2.state =
        before.state := by
  simp only [consider, excluded, Bool.false_eq_true, if_false]
  exact ⟨rfl, rfl⟩

theorem consider_of_included (selection : Selection) (file : String) (before : Recording σ)
    (included : settings.includes file = true) :
    (consider (Services.recorded oracle) settings root selection file before).1 =
        (match (oracle.hasChanges root file settings.whitespace before.state).1 with
        | .ok true => selection.keep file
        | _ => selection.skip file .whitespaceOnly) ∧
      (consider (Services.recorded oracle) settings root selection file before).2.state =
        (oracle.hasChanges root file settings.whitespace before.state).2 := by
  simp only [consider, if_pos included, bind_apply, Services.recorded, answer]
  rcases (oracle.hasChanges root file settings.whitespace before.state).1 with _ | _ | _ <;>
    exact ⟨rfl, rfl⟩

theorem exists_trial (selection : Selection) (file : String) (before : Recording σ) :
    ∃ trial,
      (∀ rest trials,
        TriedBy oracle settings root rest
          (consider (Services.recorded oracle) settings root selection file before).2.state
          trials →
        TriedBy oracle settings root (file :: rest) before.state (trial :: trials)) ∧
      (consider (Services.recorded oracle) settings root selection file before).1 =
        ⟨selection.qualifying ++ (Selection.ofTrials [trial]).qualifying,
          selection.skipped ++ (Selection.ofTrials [trial]).skipped⟩ := by
  cases included : settings.includes file with
  | false =>
    obtain ⟨value, state⟩ := consider_of_excluded oracle settings root selection file before
      included
    refine ⟨⟨file, none⟩, ?_, ?_⟩
    · rw [state]
      exact fun rest trials => TriedBy.cons_excluded included
    · rw [value]
      exact congrArg (Selection.mk · _) (List.append_nil _).symm
  | true =>
    obtain ⟨value, state⟩ := consider_of_included oracle settings root selection file before
      included
    refine ⟨⟨file, some (oracle.hasChanges root file settings.whitespace before.state).1⟩, ?_, ?_⟩
    · rw [state]
      exact fun rest trials => TriedBy.cons_included included
    · rw [value]
      rcases (oracle.hasChanges root file settings.whitespace before.state).1 with _ | _ | _
      · exact congrArg (Selection.mk · _) (List.append_nil _).symm
      · exact congrArg (Selection.mk · _) (List.append_nil _).symm
      · exact congrArg (Selection.mk _) (List.append_nil _).symm

theorem exists_trials (files : List String) (selection : Selection) (before : Recording σ) :
    ∃ trials, TriedBy oracle settings root files before.state trials ∧
      (files.foldlM (consider (Services.recorded oracle) settings root) selection before).1 =
        ⟨selection.qualifying ++ (Selection.ofTrials trials).qualifying,
          selection.skipped ++ (Selection.ofTrials trials).skipped⟩ := by
  induction files generalizing selection before with
  | nil => exact ⟨[], ⟨rfl, by simp, rfl⟩, by simp [Selection.ofTrials, pure_apply]⟩
  | cons file rest ih =>
    obtain ⟨trial, tries, value⟩ := exists_trial oracle settings root selection file before
    obtain ⟨trials, tried, selected⟩ := ih
      (consider (Services.recorded oracle) settings root selection file before).1
      (consider (Services.recorded oracle) settings root selection file before).2
    refine ⟨trial :: trials, tries rest trials tried, ?_⟩
    have split := Selection.ofTrials_append [trial] trials
    rw [List.singleton_append] at split
    rw [List.foldlM_cons, bind_apply, selected, value, split, List.append_assoc,
      List.append_assoc]

theorem make_of_finds (files : List String) (named : files ≠ []) (before : Recording σ)
    (wrapper : Path) (finds : (oracle.locateWrapper root before.state).1 = .found wrapper) :
    ∃ trials,
      TriedBy oracle settings root files (oracle.locateWrapper root before.state).2 trials ∧
      (make (Services.recorded oracle) settings root files before).1 =
        .ok ⟨root, wrapper, settings.mode, .ofTrials trials⟩ ∧
      (make (Services.recorded oracle) settings root files before).2.calls =
        before.calls ++ .locateWrapper root ::
          (files.filter settings.includes).map (.hasChanges root · settings.whitespace) := by
  have nonempty : files.isEmpty = false := List.isEmpty_eq_false_iff.mpr named
  have located : (Services.recorded oracle).locateWrapper root before =
      (.found wrapper,
        { before with
          state := (oracle.locateWrapper root before.state).2
          calls := before.calls ++ [.locateWrapper root] }) := by
    rw [← finds]
    rfl
  obtain ⟨trials, tried, selected⟩ := exists_trials oracle settings root files {}
    { before with
      state := (oracle.locateWrapper root before.state).2
      calls := before.calls ++ [.locateWrapper root] }
  refine ⟨trials, tried, ?_, ?_⟩
  · simp only [make, nonempty, Bool.false_eq_true, if_false, bind_apply, located, select, selected]
    rfl
  · simp only [make, nonempty, Bool.false_eq_true, if_false, bind_apply, located, select,
      pure_apply]
    rw [calls_select_from, List.append_assoc, List.singleton_append]

end Plan

/-! ## Files that are answered for on their own -/

def Oracle.AnswersAlone (oracle : Oracle σ) (settings : Settings) (root : Path)
    (reply : String → Except Trouble Bool) : Prop :=
  ∀ file state, (oracle.hasChanges root file settings.whitespace state).1 = reply file

def Trial.alone (settings : Settings) (reply : String → Except Trouble Bool) (file : String) :
    Trial :=
  ⟨file, if settings.includes file then some (reply file) else none⟩

theorem Oracle.AnswersAlone.replies_eq {reply : String → Except Trouble Bool}
    (alone : oracle.AnswersAlone settings root reply) (files : List String) (state : σ) :
    oracle.replies settings root files state = files.map reply := by
  induction files generalizing state with
  | nil => rfl
  | cons file rest ih =>
    rw [List.map_cons, ← alone file state,
      ← ih (oracle.hasChanges root file settings.whitespace state).2]
    rfl

theorem Trial.eq_map_alone {reply : String → Except Trouble Bool} (trials : List Trial)
    (asked : ∀ trial ∈ trials, trial.reply.isSome = settings.includes trial.file)
    (answered : trials.filterMap Trial.reply =
      ((trials.map Trial.file).filter settings.includes).map reply) :
    trials = (trials.map Trial.file).map (Trial.alone settings reply) := by
  induction trials with
  | nil => rfl
  | cons trial rest ih =>
    obtain ⟨file, answer⟩ := trial
    have askedFirst := asked ⟨file, answer⟩ (by simp)
    have askedRest : ∀ trial ∈ rest, trial.reply.isSome = settings.includes trial.file :=
      fun trial member => asked trial (by simp [member])
    cases answer with
    | none =>
      have excluded : settings.includes file = false := askedFirst.symm
      have later := ih askedRest (by simpa [excluded] using answered)
      rw [List.map_cons, List.map_cons, ← later]
      simp [alone, excluded]
    | some answer =>
      have included : settings.includes file = true := askedFirst.symm
      obtain ⟨own, others⟩ : answer = reply file ∧ rest.filterMap Trial.reply =
          ((rest.map Trial.file).filter settings.includes).map reply := by
        simpa [included] using answered
      rw [List.map_cons, List.map_cons, ← ih askedRest others]
      simp [alone, included, own]

theorem TriedBy.eq_map_alone {reply : String → Except Trouble Bool}
    (alone : oracle.AnswersAlone settings root reply) {files : List String} {state : σ}
    {trials : List Trial} (tried : TriedBy oracle settings root files state trials) :
    trials = files.map (Trial.alone settings reply) := by
  have answered := tried.answered
  rw [alone.replies_eq, ← tried.named] at answered
  have shape := Trial.eq_map_alone trials tried.asked answered
  rwa [tried.named] at shape

/-- A plan for candidates with a wrapper script is made.  It keeps the candidates whose own question
was answered with a change and skips the others, each time they are named and in their order; the
wrapper script is looked for first, and then each included candidate is asked about.  If files are
answered for on their own, the candidates of two lists together are selected as those of each. -/
theorem Plan.make_sorts_out (oracle : Oracle σ) (settings : Settings) (root : Path) :
    (∀ files : List String, files ≠ [] → ∀ (before : Recording σ) (wrapper : Path),
      (oracle.locateWrapper root before.state).1 = .found wrapper →
      ∃ trials,
        TriedBy oracle settings root files (oracle.locateWrapper root before.state).2 trials ∧
        (make (Services.recorded oracle) settings root files before).1 =
          .ok ⟨root, wrapper, settings.mode, .ofTrials trials⟩ ∧
        (make (Services.recorded oracle) settings root files before).2.calls =
          before.calls ++ .locateWrapper root ::
            (files.filter settings.includes).map (.hasChanges root · settings.whitespace) ∧
        ∀ file, (Selection.ofTrials trials).qualifying.count file
            + ((Selection.ofTrials trials).skipped.map SkippedFile.file).count file =
          files.count file) ∧
    (∀ reply : String → Except Trouble Bool, oracle.AnswersAlone settings root reply →
      ∀ left right : List String, left ≠ [] → right ≠ [] →
      ∀ (before beforeLeft beforeRight : Recording σ) (wrapper wrapperLeft wrapperRight : Path),
      (oracle.locateWrapper root before.state).1 = .found wrapper →
      (oracle.locateWrapper root beforeLeft.state).1 = .found wrapperLeft →
      (oracle.locateWrapper root beforeRight.state).1 = .found wrapperRight →
      ∃ first second : Selection,
        (make (Services.recorded oracle) settings root left beforeLeft).1 =
          .ok ⟨root, wrapperLeft, settings.mode, first⟩ ∧
        (make (Services.recorded oracle) settings root right beforeRight).1 =
          .ok ⟨root, wrapperRight, settings.mode, second⟩ ∧
        (make (Services.recorded oracle) settings root (left ++ right) before).1 =
          .ok ⟨root, wrapper, settings.mode,
            ⟨first.qualifying ++ second.qualifying, first.skipped ++ second.skipped⟩⟩) := by
  constructor
  · intro files named before wrapper finds
    obtain ⟨trials, tried, made, asked⟩ :=
      make_of_finds oracle settings root files named before wrapper finds
    refine ⟨trials, tried, made, asked, ?_⟩
    intro file
    rw [Selection.count_ofTrials, tried.named]
  · intro reply alone left right namedLeft namedRight before beforeLeft beforeRight wrapper
      wrapperLeft wrapperRight finds findsLeft findsRight
    obtain ⟨trials, tried, made, -⟩ := make_of_finds oracle settings root (left ++ right)
      (by simp [namedLeft]) before wrapper finds
    obtain ⟨trialsLeft, triedLeft, madeLeft, -⟩ :=
      make_of_finds oracle settings root left namedLeft beforeLeft wrapperLeft findsLeft
    obtain ⟨trialsRight, triedRight, madeRight, -⟩ :=
      make_of_finds oracle settings root right namedRight beforeRight wrapperRight findsRight
    have together : trials = trialsLeft ++ trialsRight := by
      rw [tried.eq_map_alone alone, triedLeft.eq_map_alone alone, triedRight.eq_map_alone alone,
        List.map_append]
    refine ⟨_, _, madeLeft, madeRight, ?_⟩
    rw [made, together, Selection.ofTrials_append]

/-- Takes every question about a file as its cue: it fails to answer the first, answers the second
with a change and all others without one. -/
def moodyOracle : Oracle Nat where
  repositoryRoot asked := (.ok ⟨[0x2F]⟩, asked)
  hasChanges _ _ _ asked :=
    (if asked = 0 then .error (.of "busy") else .ok (asked == 1), asked + 1)
  locateWrapper root asked := (.found root, asked)
  apply _ asked := (.ok 0, asked)

/-- Answers with a change unless the file has no name. -/
def steadyOracle : Oracle Unit where
  repositoryRoot state := (.ok ⟨[0x2F]⟩, state)
  hasChanges _ file _ state := (.ok (file != ""), state)
  locateWrapper root state := (.found root, state)
  apply _ state := (.ok 0, state)

def textSettings : Settings where
  mode := .paths
  whitespace := .atLineEnd
  globs := [⟨"*t", [.anySequence, .char 't']⟩]
  goal := "spotless:apply"

theorem Plan.make_sorts_out_moody :
    (∃ trials,
      TriedBy moodyOracle textSettings ⟨[0x2F]⟩ ["a.t", "a.t", "b", "a.t"] 0 trials ∧
      Selection.ofTrials trials =
        ⟨["a.t"], [⟨"a.t", .whitespaceOnly⟩, ⟨"b", .notIncluded⟩, ⟨"a.t", .whitespaceOnly⟩]⟩) ∧
    (∃ first second : Selection,
      (make (Services.recorded steadyOracle) textSettings ⟨[0x2F]⟩ ["a.t", "", "b"]
        { state := () }).1 =
          .ok ⟨⟨[0x2F]⟩, ⟨[0x2F]⟩, .paths,
            ⟨first.qualifying ++ second.qualifying, first.skipped ++ second.skipped⟩⟩) := by
  constructor
  · obtain ⟨trials, tried, made, -⟩ := (make_sorts_out moodyOracle textSettings ⟨[0x2F]⟩).1
      ["a.t", "a.t", "b", "a.t"] (by decide) { state := 0 } ⟨[0x2F]⟩ rfl
    have ran : (make (Services.recorded moodyOracle) textSettings ⟨[0x2F]⟩
        ["a.t", "a.t", "b", "a.t"] { state := 0 }).1 =
          .ok ⟨⟨[0x2F]⟩, ⟨[0x2F]⟩, .paths, ⟨["a.t"],
            [⟨"a.t", .whitespaceOnly⟩, ⟨"b", .notIncluded⟩, ⟨"a.t", .whitespaceOnly⟩]⟩⟩ := rfl
    rw [made] at ran
    injection ran with plan
    exact ⟨trials, tried, congrArg Plan.selection plan⟩
  · obtain ⟨first, second, -, -, made⟩ :=
      (make_sorts_out steadyOracle textSettings ⟨[0x2F]⟩).2 (fun file => .ok (file != ""))
        (fun file state => rfl) ["a.t"] ["", "b"] (by decide) (by decide) { state := () }
        { state := () } { state := () } ⟨[0x2F]⟩ ⟨[0x2F]⟩ ⟨[0x2F]⟩ rfl rfl rfl
    exact ⟨first, second, made⟩

end StagedFormat
