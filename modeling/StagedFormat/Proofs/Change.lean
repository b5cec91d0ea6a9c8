import StagedFormat.Proofs.FileTree
import StagedFormat.World.Change

/-!
# What making directories leaves

Making directories only adds directories to a tree, and does so as well where it fails half way.
Every file keeps its place, its bytes and its permission bits.
-/

set_option autoImplicit false

namespace StagedFormat

namespace FileTree

/-- All is as before, but for directories where nothing was. -/
structure GainsDirectories (tree after : FileTree) : Prop where
  look : ∀ place, after.look place = tree.look place ∨
    tree.look place = none ∧ after.look place = some .directory
  standing : after.standing = tree.standing

variable {tree made after : FileTree} {place start : Location}

theorem GainsDirectories.refl (tree : FileTree) : tree.GainsDirectories tree :=
  ⟨fun _ => .inl rfl, rfl⟩

theorem GainsDirectories.trans (first : tree.GainsDirectories made)
    (second : made.GainsDirectories after) : tree.GainsDirectories after := by
  refine ⟨fun place => ?_, second.standing.trans first.standing⟩
  rcases second.look place with same | ⟨vacant, directory⟩
  · rw [same]
    exact first.look place
  · rcases first.look place with same | ⟨-, earlier⟩
    · exact .inr ⟨same.symm.trans vacant, directory⟩
    · rw [earlier] at vacant
      cases vacant

theorem GainsDirectories.of_put (vacant : tree.look place = none) :
    tree.GainsDirectories (tree.put place .directory) := by
  refine ⟨fun other => ?_, rfl⟩
  by_cases same : other = place
  · subst same
    have below : other ≠ .top := by
      rintro rfl
      simp at vacant
    exact .inr ⟨vacant, look_put_self tree other .directory below⟩
  · exact .inl (look_put_of_ne tree place other .directory same)

theorem GainsDirectories.look_file_iff (gains : tree.GainsDirectories after)
    (content : List UInt8) (mode : Nat) :
    after.look place = some (.file content mode) ↔ tree.look place = some (.file content mode) := by
  rcases gains.look place with same | ⟨vacant, directory⟩
  · rw [same]
  · simp [vacant, directory]

theorem gainsDirectories_of_makeDirectory {reversed : List (List UInt8)}
    (making : tree.makeDirectory start reversed = .ok made) : tree.GainsDirectories made := by
  cases reversed with
  | nil => cases making
  | cons name parents =>
    unfold makeDirectory at making
    cases walked : tree.walk start parents.reverse with
    | error error => simp [walked, bind, Except.bind] at making
    | ok parent =>
      cases stepped : tree.step parent name with
      | error error => simp [walked, stepped, bind, Except.bind] at making
      | ok last =>
        simp only [walked, stepped, bind, Except.bind] at making
        split at making
        · cases making
        · split at making
          · cases making
          · rename_i _ vacant
            cases making
            exact .of_put (by simpa using vacant)

theorem gainsDirectories_of_ensureDirectory {reversed : List (List UInt8)}
    (making : tree.ensureDirectory start reversed = .ok made) : tree.GainsDirectories made := by
  unfold ensureDirectory at making
  cases attempt : tree.makeDirectory start reversed with
  | ok result =>
    simp only [attempt, Except.ok.injEq] at making
    exact making ▸ gainsDirectories_of_makeDirectory attempt
  | error error =>
    simp only [attempt] at making
    split at making
    · cases making
      exact .refl tree
    · cases making

end FileTree

namespace Change

variable {ε α : Type} {tree made : FileTree}

/-! ## Step by step -/

theorem run_ofExcept (result : Except ε α) (tree : FileTree) :
    (ofExcept result : Change ε α).run tree =
      match result with
      | .ok value => .ok value tree
      | .error error => .error error tree := by
  cases result <;> rfl

theorem run_step (act : FileTree → Except ε FileTree) (tree : FileTree) :
    (step act).run tree =
      match act tree with
      | .ok made => .ok () made
      | .error error => .error error tree := by
  rw [step, EStateM.run_bind, EStateM.run_get]
  dsimp only
  rw [EStateM.run_bind, run_ofExcept]
  cases act tree <;> rfl

/-- A change has gained directories only, also if it failed. -/
def Gains (tree : FileTree) : EStateM.Result ε FileTree α → Prop
  | .ok _ made => tree.GainsDirectories made
  | .error _ left => tree.GainsDirectories left

theorem Gains.after {result : EStateM.Result ε FileTree α} (gains : tree.GainsDirectories made)
    (more : Gains made result) : Gains tree result := by
  cases result with
  | ok value last => exact gains.trans more
  | error error last => exact gains.trans more

theorem Gains.bind {β : Type} {first : Change ε α} {next : α → Change ε β}
    (begins : Gains tree (first.run tree))
    (goes : ∀ value made, Gains made ((next value).run made)) :
    Gains tree ((first >>= next).run tree) := by
  rw [EStateM.run_bind]
  cases ran : first.run tree with
  | ok value made =>
    rw [ran] at begins
    exact (goes value made).after begins
  | error error left =>
    rw [ran] at begins
    exact begins

theorem gains_step {act : FileTree → Except ε FileTree}
    (gains : ∀ made, act tree = .ok made → tree.GainsDirectories made) :
    Gains tree ((step act).run tree) := by
  rw [run_step]
  cases acted : act tree with
  | ok made => exact gains made acted
  | error error => exact .refl tree

/-! ## Making directories -/

theorem gains_makeMissing (names : List (List UInt8)) (tree : FileTree) (place : Location) :
    Gains tree ((makeMissing place names).run tree) := by
  induction names generalizing tree place with
  | nil => exact FileTree.GainsDirectories.refl tree
  | cons name rest ih =>
    unfold makeMissing
    by_cases here : name = [] ∨ name = FileTree.sameName
    · simp only [if_pos here]
      exact ih tree place
    by_cases above : name = FileTree.parentName
    · simp only [if_neg here, if_pos above]
      exact ih tree place.parent
    by_cases long : FileTree.longestName < name.length
    · simp only [if_neg here, if_neg above, if_pos long]
      exact FileTree.GainsDirectories.refl tree
    simp only [if_neg here, if_neg above, if_neg long, EStateM.run_bind, EStateM.run_get]
    cases there : tree.look (place.child name) with
    | none => exact (ih _ (place.child name)).after (.of_put there)
    | some entry =>
      cases entry with
      | directory => exact ih tree (place.child name)
      | file content mode => exact FileTree.GainsDirectories.refl tree

theorem gains_makeDirectories (tree : FileTree) (workdir : Location) (path : Path) :
    Gains tree ((makeDirectories workdir path).run tree) := by
  unfold makeDirectories
  by_cases nul : path.bytes.contains 0 = true
  · simp only [if_pos nul]
    exact FileTree.GainsDirectories.refl tree
  by_cases long : FileTree.longestPath < path.bytes.length
  · simp only [if_neg nul, if_pos long]
    exact FileTree.GainsDirectories.refl tree
  by_cases nameless : path.names.reverse.dropWhile List.isEmpty = []
  · simp only [if_neg nul, if_neg long, if_pos nameless]
    exact FileTree.GainsDirectories.refl tree
  simp only [if_neg nul, if_neg long, if_neg nameless, EStateM.run_bind, EStateM.run_get]
  cases ensured : tree.ensureDirectory (FileTree.origin workdir path)
      (path.names.reverse.dropWhile List.isEmpty) with
  | ok made => exact FileTree.gainsDirectories_of_ensureDirectory ensured
  | error error =>
    cases error with
    | system reason =>
      cases reason with
      | notFound =>
        refine Gains.bind (gains_makeMissing _ tree _) fun _ made => gains_step fun last => ?_
        exact FileTree.gainsDirectories_of_ensureDirectory
      | _ => exact FileTree.GainsDirectories.refl tree
    | _ => exact FileTree.GainsDirectories.refl tree

theorem gainsDirectories_of_makeDirectories {workdir : Location} {path : Path}
    (making : (makeDirectories workdir path).run tree = .ok () made) :
    tree.GainsDirectories made := by
  have gains := gains_makeDirectories tree workdir path
  rwa [making] at gains

theorem makeDirectories_of_isMade {workdir : Location} {path : Path}
    (isMade : tree.IsMade workdir path) :
    (makeDirectories workdir path).run tree = .ok () tree := by
  unfold makeDirectories
  simp only [isMade.noNul, Bool.false_eq_true, if_false, if_neg isMade.short]
  by_cases nameless : path.names.reverse.dropWhile List.isEmpty = []
  · simp only [if_pos nameless]
    rfl
  · simp only [if_neg nameless, EStateM.run_bind, EStateM.run_get,
      FileTree.ensureDirectory_of_leadsToDirectory nameless (isMade.leads nameless)]
    rfl

theorem makeDirectories_of_long (workdir : Location) {path : Path}
    (noNul : path.bytes.contains 0 = false) (long : FileTree.longestPath < path.bytes.length) :
    (makeDirectories workdir path).run tree = .error (.system .nameTooLong) tree := by
  unfold makeDirectories
  simp only [noNul, Bool.false_eq_true, if_false, if_pos long]
  rfl

theorem isMade_of_makeDirectories {workdir : Location} {path : Path}
    (making : (makeDirectories workdir path).run tree = .ok () made) :
    made.IsMade workdir path := by
  unfold makeDirectories at making
  by_cases nul : path.bytes.contains 0 = true
  · simp only [if_pos nul] at making
    cases making
  by_cases long : FileTree.longestPath < path.bytes.length
  · simp only [if_neg nul, if_pos long] at making
    cases making
  refine ⟨by simpa using nul, long, fun named => ?_⟩
  simp only [if_neg nul, if_neg long, if_neg named, EStateM.run_bind, EStateM.run_get] at making
  split at making
  · rw [EStateM.run_bind] at making
    split at making
    · rename_i missing _
      rw [run_step] at making
      split at making
      · rename_i ensured
        cases making
        exact FileTree.leadsToDirectory_of_ensureDirectory ensured
      · cases making
    · cases making
  · cases making
  · rename_i ensured
    cases making
    exact FileTree.leadsToDirectory_of_ensureDirectory ensured

end Change

end StagedFormat
