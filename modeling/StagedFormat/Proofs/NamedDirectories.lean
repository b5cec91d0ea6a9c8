import StagedFormat.Proofs.Account
import StagedFormat.Proofs.Lines
import StagedFormat.Proofs.Utf8

/-!
# Directories that git names

Asked for a directory, git prints its name and a line feed.  The line feed is taken off by trimming,
which takes the blanks at both ends of the name as well.  So a directory is taken over as it is
named exactly if its name neither begins nor ends with a blank.  Any other name stands for another
directory from there on.
-/

set_option autoImplicit false

namespace StagedFormat

open StagedFormat.Action

/-! ## Names between blanks -/

namespace Text

def HasSolidEnds (text : List Char) : Prop :=
  (∀ c ∈ text.head?, isBlank c = false) ∧ ∀ c ∈ text.getLast?, isBlank c = false

instance (text : List Char) : Decidable (HasSolidEnds text) :=
  decidable_of_iff _ (trim_eq_self_iff text)

/-- What is left of a text is as long as the text only if it is the text. -/
theorem hasSolidEnds_of_length_le {text : List Char}
    (long : (encode text).length ≤ (encode (trim text)).length) : HasSolidEnds text := by
  obtain ⟨front, back, whole⟩ := trim_isInfix text
  have bytes : encode (trim text) <:+: encode text :=
    ⟨encode front, encode back, by rw [← encode_append, ← encode_append, whole]⟩
  exact (trim_eq_self_iff text).mp (encode_injective (bytes.eq_of_length_le long))

end Text

/-- The name of a directory without the blanks at its ends. -/
def trimmedName (name : String) : String :=
  String.ofList (Text.trim name.toList)

theorem trimmedName_eq_self_iff (name : String) :
    trimmedName name = name ↔ Text.HasSolidEnds name.toList := by
  rw [← String.toList_inj, trimmedName, String.toList_ofList, Text.trim_eq_self_iff,
    Text.HasSolidEnds]

namespace Path

theorem length_join (path other : Path) :
    (path.join other).bytes.length =
      if other.isAbsolute then other.bytes.length
      else path.bytes.length + (if path.needsSlash then 1 else 0) + other.bytes.length := by
  unfold join
  by_cases absolute : other.isAbsolute = true
  · simp [absolute]
  · by_cases slashed : path.needsSlash = true
    · simp [absolute, slashed]
      omega
    · simp [absolute, slashed]

theorem ofText_trimmedName_iff (name : String) :
    ofText (trimmedName name) = ofText name ↔ Text.HasSolidEnds name.toList := by
  rw [ofText_injective.eq_iff, trimmedName_eq_self_iff]

/-- A lost blank shows in the path as well, even where an absolute path comes out. -/
theorem join_trimmedName_iff (path : Path) (name : String) :
    path.join (ofText (trimmedName name)) = path.join (ofText name) ↔
      Text.HasSolidEnds name.toList := by
  constructor
  · intro same
    by_cases absolute : (ofText name).isAbsolute = true
    · obtain ⟨rest, text⟩ := List.head?_eq_some_iff.mp ((isAbsolute_ofText_iff name).mp absolute)
      obtain ⟨tail, cut⟩ := Text.exists_trim_eq_cons [] rest '/' (by simp) rfl
      have kept : (ofText (trimmedName name)).isAbsolute = true := by
        rw [isAbsolute_ofText_iff, trimmedName, String.toList_ofList, text,
          ← List.nil_append ('/' :: rest), cut]
        rfl
      rw [join_of_isAbsolute _ _ kept, join_of_isAbsolute _ _ absolute] at same
      exact (ofText_trimmedName_iff name).mp same
    · have lengths := congrArg (·.bytes.length) same
      simp only [length_join, if_neg absolute] at lengths
      have long : (ofText name).bytes.length ≤ (ofText (trimmedName name)).bytes.length := by
        split at lengths <;> omega
      apply Text.hasSolidEnds_of_length_le
      simpa [ofText, Text.bytesOf, trimmedName] using long
  · intro solid
    rw [(ofText_trimmedName_iff name).mpr solid]

end Path

/-! ## Answers with a name -/

namespace Repository

def rootQueryFrom (workdir : Path) : Start :=
  ⟨.ofText "git", ["rev-parse", "--show-toplevel"], workdir⟩

def hooksQueryFrom (workdir : Path) : Start :=
  ⟨.ofText "git", ["rev-parse", "--git-path", "hooks"], workdir⟩

/-- The host answers a question with a name, which it ends with a line feed. -/
def Names (host : Host) (past : List Started) (query : Start) (name : String) : Prop :=
  host.output? past query = some (Text.bytesOf (name ++ "\n"))

instance (host : Host) (past : List Started) (query : Start) (name : String) :
    Decidable (Names host past query name) :=
  inferInstanceAs (Decidable (_ = _))

theorem trimmed_line (name : String) :
    trimmed (Text.bytesOf (name ++ "\n")) = trimmedName name := by
  have blank : ∀ c ∈ "\n".toList, Text.isBlank c = true := List.all_eq_true.mp (by decide)
  rw [trimmed, Text.bytesOf, Text.decodeLossy_encode, String.toList_append,
    Text.trim_append_of_blank name.toList _ blank, trimmedName]

variable {host : Host} {past : List Started} {workdir : Path} {name : String}

theorem value_root_of_names (named : Names host past (rootQueryFrom workdir) name) :
    (root host workdir past).value = .ok (.ofText (trimmedName name)) := by
  obtain ⟨completion, answered, success, printed⟩ := value_git_of_output? named
  simp only [root, value_bind, answered, if_pos success, printed, trimmed_line, value_pure]

theorem value_hooksDirectory_of_names (named : Names host past (hooksQueryFrom workdir) name) :
    (hooksDirectory host workdir past).value =
      .ok (workdir.join (.ofText (trimmedName name))) := by
  obtain ⟨completion, answered, success, printed⟩ := value_git_of_output? named
  simp only [hooksDirectory, value_bind, answered, if_pos success, printed, trimmed_line,
    value_pure]

end Repository

namespace Run

variable (machine : Machine)

/-- Once the directory of the hooks is known, a run installs the hook there. -/
theorem value_installHook_eq_ok_iff {directory : Path} (narrator : Narrator) (force : Bool)
    (glob : String) (tree : FileTree)
    (known : (Repository.hooksDirectory machine.host machine.host.workdirPath []).value =
      .ok directory) :
    (installHook machine narrator force glob []).value = (tree, .ok ()) ↔
      machine.host.tree.look machine.host.workdir = some .directory ∧
        ∃ installation, (Hook.install machine.host.workdir directory glob force).run
          machine.host.tree = .ok installation tree := by
  by_cases placed : machine.host.tree.look machine.host.workdir = some .directory
  · simp only [installHook, currentDirectory_of_placed placed, value_bind, known]
    cases (Hook.install machine.host.workdir directory glob force).run machine.host.tree with
    | error error left => simp
    | ok installation after => simp [placed]
  · simp [installHook, currentDirectory_of_gone placed, placed]

/-- The directories that git names are taken over as they are named, and a run works in them,
provided that a name neither begins nor ends with a blank.  No other name is taken over. -/
theorem named_directories_iff (name : String) :
    (∀ past workdir, Repository.Names machine.host past (Repository.rootQueryFrom workdir) name →
      ((Repository.root machine.host workdir past).value = .ok (.ofText name) ↔
        Text.HasSolidEnds name.toList)) ∧
    (∀ past workdir, Repository.Names machine.host past (Repository.hooksQueryFrom workdir) name →
      ((Repository.hooksDirectory machine.host workdir past).value =
          .ok (if (Path.ofText name).isAbsolute then .ofText name
            else workdir.join (.ofText name)) ↔
        Text.HasSolidEnds name.toList)) ∧
    (Repository.Names machine.host [] (Repository.rootQueryFrom machine.host.workdirPath) name →
      Text.HasSolidEnds name.toList → ∀ narrator mode files setup plan,
        (planned machine narrator mode files []).value = .ok (setup, plan) →
          plan.root = .ofText name ∧
          (Config.load machine.host (.ofText name) []).value = .ok setup.config ∧
          plan.wrapper = (Path.ofText name).join
            (.ofText (setup.config.wrapper.on machine.platform))) ∧
    (Repository.Names machine.host [] (Repository.hooksQueryFrom machine.host.workdirPath) name →
      Text.HasSolidEnds name.toList → ∀ narrator force glob tree,
        (installHook machine narrator force glob []).value = (tree, .ok ()) ↔
          machine.host.tree.look machine.host.workdir = some .directory ∧
          ∃ installation, (Hook.install machine.host.workdir
            (machine.host.workdirPath.join (.ofText name)) glob force).run machine.host.tree =
              .ok installation tree) := by
  refine ⟨?_, ?_, ?_, ?_⟩
  · intro past workdir named
    rw [Repository.value_root_of_names named, Except.ok.injEq, Path.ofText_trimmedName_iff]
  · intro past workdir named
    have joined : (if (Path.ofText name).isAbsolute then .ofText name
        else workdir.join (.ofText name)) = workdir.join (.ofText name) := by
      split
      · rename_i absolute
        exact (Path.join_of_isAbsolute workdir _ absolute).symm
      · rfl
    rw [Repository.value_hooksDirectory_of_names named, joined, Except.ok.injEq,
      Path.join_trimmedName_iff]
  · intro named solid narrator mode files setup plan made
    have known := isPlanned_of_planned made
    obtain ⟨settings, ready, -⟩ := known.ready
    have answered := Repository.value_root_of_names named
    rw [(trimmedName_eq_self_iff name).mpr solid] at answered
    have given := (Repository.value_root_eq_ok_iff machine.host [] setup.root).mpr ready.named
    have root : setup.root = .ofText name := Except.ok.inj (given.symm.trans answered)
    rw [← root]
    exact ⟨known.root, ready.loaded, known.wrapper⟩
  · intro named solid narrator force glob tree
    have answered := Repository.value_hooksDirectory_of_names named
    rw [(trimmedName_eq_self_iff name).mpr solid] at answered
    exact value_installHook_eq_ok_iff machine narrator force glob tree answered

/-- The failing machine with a repository below `srv`, seen from a directory in it. -/
def nestedMachine : Machine :=
  { failingMachine with
    host :=
      { failingMachine.host with
        tree :=
          ⟨fun place =>
            if place = .of [Text.bytesOf "mvnw", Text.bytesOf "repo", Text.bytesOf "srv"] then
              some (.file wrapperScript executableMode)
            else if place ∈ [.of [Text.bytesOf "srv"],
                .of [Text.bytesOf "repo", Text.bytesOf "srv"],
                .of [Text.bytesOf "app", Text.bytesOf "repo", Text.bytesOf "srv"]] then
              some .directory
            else none, .owner⟩
        workdir := .of [Text.bytesOf "app", Text.bytesOf "repo", Text.bytesOf "srv"]
        perform := fun past started =>
          match started.arguments with
          | ["rev-parse", "--show-toplevel"] => .ok ⟨.exited 0, Text.bytesOf "/srv/repo\n", []⟩
          | ["rev-parse", "--git-path", "hooks"] =>
            .ok ⟨.exited 0, Text.bytesOf "../.git/hooks\n", []⟩
          | _ => failingMachine.host.perform past started } }

theorem ready_nestedMachine : Ready nestedMachine (.ofText "/srv/repo") {}
    ⟨.paths, .atLineEnd, [], "spotless:apply"⟩ :=
  ⟨rfl, ⟨Text.bytesOf "/srv/repo\n", by decide +kernel, by decide +kernel⟩, rfl, rfl,
    by decide +kernel⟩

theorem named_directories_iff_top :
    (Repository.root nestedMachine.host nestedMachine.host.workdirPath []).value =
      .ok (.ofText "/srv/repo") ∧
    (Repository.hooksDirectory nestedMachine.host nestedMachine.host.workdirPath []).value =
      .ok (.ofText "/srv/repo/app/../.git/hooks") ∧
    (∃ setup plan,
      (planned nestedMachine ⟨.programs, false⟩ none ["A.java"] []).value = .ok (setup, plan) ∧
      plan.root = .ofText "/srv/repo" ∧ plan.wrapper = .ofText "/srv/repo/mvnw") ∧
    ∃ tree installation,
      (installHook nestedMachine ⟨.programs, false⟩ false "*.java" []).value = (tree, .ok ()) ∧
      (Hook.install nestedMachine.host.workdir (.ofText "/srv/repo/app/../.git/hooks") "*.java"
        false).run nestedMachine.host.tree = .ok installation tree := by
  have rootNamed : Repository.Names nestedMachine.host []
      (Repository.rootQueryFrom nestedMachine.host.workdirPath) "/srv/repo" := by
    decide +kernel
  have hooksNamed : Repository.Names nestedMachine.host []
      (Repository.hooksQueryFrom nestedMachine.host.workdirPath) "../.git/hooks" := by
    decide +kernel
  obtain ⟨root, -, works, -⟩ := named_directories_iff nestedMachine "/srv/repo"
  obtain ⟨-, hooks, -, installs⟩ := named_directories_iff nestedMachine "../.git/hooks"
  refine ⟨(root _ _ rootNamed).mpr (by decide), (hooks _ _ hooksNamed).mpr (by decide), ?_, ?_⟩
  · obtain ⟨plan, made, -⟩ := planned_of_ready ⟨.programs, false⟩ none
      (List.cons_ne_nil "A.java" []) ready_nestedMachine
    obtain ⟨planRoot, -, wrapper⟩ := works rootNamed (by decide) _ _ _ _ _ made
    exact ⟨_, plan, made, planRoot, wrapper.trans (by decide)⟩
  · have succeeds : (installHook nestedMachine ⟨.programs, false⟩ false "*.java"
        []).value.2.isOk = true := by
      decide +kernel
    cases installed : (installHook nestedMachine ⟨.programs, false⟩ false "*.java" []).value with
    | mk tree result =>
      rw [installed] at succeeds
      cases result with
      | error failure => cases succeeds
      | ok done =>
        obtain ⟨-, installation, installs⟩ :=
          (installs hooksNamed (by decide) _ _ _ _).mp installed
        exact ⟨tree, installation, rfl, installs⟩

/-- A host with two directories whose names differ in a blank at the end.  The working directory is
the one with the blank, and git names it. -/
def siblingHost : Host where
  tree := ⟨fun place =>
    if place = .of [Text.bytesOf "repo"] ∨ place = .of [Text.bytesOf "repo "] then some .directory
    else none, .owner⟩
  workdir := .of [Text.bytesOf "repo "]
  onSearchPath := fun name => name = .ofText "git"
  perform := fun _ _ => .ok ⟨.exited 0, Text.bytesOf "/repo \n", []⟩
  rejection := fun _ => ""

/-- The directory that is taken over is not the one that git names. -/
theorem root_loses_blank :
    Repository.Names siblingHost [] (Repository.rootQueryFrom siblingHost.workdirPath) "/repo " ∧
    (Repository.root siblingHost siblingHost.workdirPath []).value = .ok (.ofText "/repo") ∧
    Path.ofText "/repo" ≠ .ofText "/repo " ∧
    siblingHost.enter (.ofText "/repo") = .ok (.of [Text.bytesOf "repo"]) ∧
    siblingHost.enter (.ofText "/repo ") = .ok (.of [Text.bytesOf "repo "]) := by
  have named : Repository.Names siblingHost []
      (Repository.rootQueryFrom siblingHost.workdirPath) "/repo " := by
    decide +kernel
  have lost : trimmedName "/repo " = "/repo" := by decide
  refine ⟨named, ?_, by decide, by decide +kernel, by decide +kernel⟩
  rw [Repository.value_root_of_names named, lost]

end Run

end StagedFormat
