import Mathlib.Data.List.Induction
import StagedFormat.World.FileTree

/-!
# What a write leaves alone

A write changes one place that is no directory.  Every path that led somewhere before still leads
to the same place, and directories that were made stay made.
-/

set_option autoImplicit false

namespace StagedFormat.FileTree

variable {tree : FileTree} {start place target workdir : Location} {entry : Entry}
  {names : List (List UInt8)} {path : Path}

theorem ne_top_of_look_ne (notDirectory : tree.look target ≠ some .directory) :
    target ≠ .top := by
  rintro rfl
  exact notDirectory (look_top tree)

@[simp] theorem put_put (first second : Entry) :
    (tree.put target first).put target second = tree.put target second := by
  simp only [put, FileTree.mk.injEq, and_true]
  funext other
  split <;> rfl

/-! ## Walking -/

theorem look_of_step_eq_ok {name : List UInt8} (stepped : tree.step start name = .ok place) :
    tree.look start = some .directory := by
  unfold step at stepped
  split at stepped
  · cases stepped
  · cases stepped
  · assumption

theorem step_put (name : List UInt8) (other : start ≠ target) :
    (tree.put target entry).step start name = tree.step start name := by
  unfold step
  rw [look_put_of_ne tree target start entry other]

theorem walk_append (left right : List (List UInt8)) :
    tree.walk start (left ++ right) = (tree.walk start left).bind (tree.walk · right) := by
  induction left generalizing start with
  | nil => rfl
  | cons name rest ih =>
    simp only [List.cons_append, walk]
    split
    · rfl
    · exact ih

/-- A walk that arrives does so whatever is put where there is no directory. -/
theorem walk_put (notDirectory : tree.look target ≠ some .directory)
    (walked : tree.walk start names = .ok place) :
    (tree.put target entry).walk start names = .ok place := by
  induction names generalizing start with
  | nil => exact walked
  | cons name rest ih =>
    simp only [walk] at walked ⊢
    cases stepped : tree.step start name with
    | error error => simp [stepped] at walked
    | ok next =>
      have other : start ≠ target := by
        rintro rfl
        exact notDirectory (look_of_step_eq_ok stepped)
      rw [step_put name other, stepped]
      rw [stepped] at walked
      exact ih walked

theorem find_put (notDirectory : tree.look target ≠ some .directory)
    (found : tree.find workdir path = .ok place) :
    (tree.put target entry).find workdir path = .ok place := by
  unfold find at found ⊢
  split at found
  · cases found
  · split at found
    · cases found
    · split at found
      · cases found
      · rename_i noNul notEmpty short
        rw [if_neg noNul, if_neg notEmpty, if_neg short]
        exact walk_put notDirectory found

/-! ## Files -/

theorem read_of_look {content : List UInt8} {mode : Nat}
    (found : tree.find workdir path = .ok place)
    (there : tree.look place = some (.file content mode))
    (readable : tree.standing.mayRead mode = true) :
    tree.read workdir path = .ok content := by
  simp [read, found, there, readable, bind, Except.bind]

theorem exists_write_eq_ok (content : List UInt8) (found : tree.find workdir path = .ok place)
    (notDirectory : tree.look place ≠ some .directory) :
    ∃ mode, tree.write workdir path content = .ok (tree.put place (.file content mode)) := by
  cases there : tree.look place with
  | none => exact ⟨plainMode, by simp [write, found, there, bind, Except.bind]⟩
  | some entry =>
    cases entry with
    | directory => exact absurd there notDirectory
    | file old mode => exact ⟨mode, by simp [write, found, there, bind, Except.bind]⟩

theorem setMode_of_look {content : List UInt8} {old : Nat} (mode : Nat)
    (found : tree.find workdir path = .ok place)
    (there : tree.look place = some (.file content old)) :
    tree.setMode workdir path mode = .ok (tree.put place (.file content mode)) := by
  simp [setMode, found, there, bind, Except.bind]

/-! ## Directories that are made -/

theorem leadsToDirectory_iff (reversed : List (List UInt8)) :
    tree.leadsToDirectory start reversed = true ↔
      ∃ place, tree.walk start reversed.reverse = .ok place ∧
        tree.look place = some .directory := by
  unfold leadsToDirectory
  cases tree.walk start reversed.reverse with
  | error error => simp
  | ok place => simp

/-- Empty names at the end of a path stay in a directory. -/
theorem leadsToDirectory_dropWhile {names : List (List UInt8)}
    (walked : tree.walk start names = .ok place) (directory : tree.look place = some .directory) :
    tree.leadsToDirectory start (names.reverse.dropWhile List.isEmpty) = true := by
  induction names using List.reverseRecOn generalizing place with
  | nil => exact (leadsToDirectory_iff _).mpr ⟨place, walked, directory⟩
  | append_singleton front last ih =>
    rw [List.reverse_append, List.reverse_singleton, List.singleton_append]
    cases last with
    | cons byte others =>
      rw [List.dropWhile_cons_of_neg (by simp)]
      refine (leadsToDirectory_iff _).mpr ⟨place, ?_, directory⟩
      simpa using walked
    | nil =>
      rw [List.dropWhile_cons_of_pos rfl]
      rw [walk_append] at walked
      cases earlier : tree.walk start front with
      | error error => simp [earlier, Except.bind] at walked
      | ok mid =>
        simp only [earlier, Except.bind, walk] at walked
        cases stepped : tree.step mid [] with
        | error error => simp [stepped] at walked
        | ok next => exact ih earlier (look_of_step_eq_ok stepped)

theorem leadsToDirectory_put {reversed : List (List UInt8)}
    (notDirectory : tree.look target ≠ some .directory)
    (leads : tree.leadsToDirectory start reversed = true) :
    (tree.put target entry).leadsToDirectory start reversed = true := by
  obtain ⟨place, walked, directory⟩ := (leadsToDirectory_iff reversed).mp leads
  have other : place ≠ target := by
    rintro rfl
    exact notDirectory directory
  refine (leadsToDirectory_iff reversed).mpr ⟨place, walk_put notDirectory walked, ?_⟩
  rw [look_put_of_ne tree target place entry other, directory]

theorem leadsToDirectory_of_makeDirectory {made : FileTree} {reversed : List (List UInt8)}
    (making : tree.makeDirectory start reversed = .ok made) :
    made.leadsToDirectory start reversed = true := by
  cases reversed with
  | nil => cases making
  | cons name parents =>
    unfold makeDirectory at making
    cases walked : tree.walk start parents.reverse with
    | error error => simp [walked, bind, Except.bind] at making
    | ok parent =>
      cases stepped : tree.step parent name with
      | error error => simp [walked, stepped, bind, Except.bind] at making
      | ok last =>
        simp only [walked, stepped, bind, Except.bind] at making
        split at making
        · cases making
        · split at making
          · cases making
          · rename_i _ vacant
            cases making
            have notDirectory : tree.look last ≠ some .directory := by
              intro directory
              simp [directory] at vacant
            have other : parent ≠ last := by
              rintro rfl
              exact notDirectory (look_of_step_eq_ok stepped)
            refine (leadsToDirectory_iff _).mpr ⟨last, ?_, ?_⟩
            · rw [List.reverse_cons, walk_append, walk_put notDirectory walked]
              simp [Except.bind, walk, step_put name other, stepped]
            · exact look_put_self tree last .directory (ne_top_of_look_ne notDirectory)

theorem leadsToDirectory_of_ensureDirectory {made : FileTree} {reversed : List (List UInt8)}
    (making : tree.ensureDirectory start reversed = .ok made) :
    made.leadsToDirectory start reversed = true := by
  unfold ensureDirectory at making
  cases attempt : tree.makeDirectory start reversed with
  | ok result =>
    simp only [attempt, Except.ok.injEq] at making
    subst making
    exact leadsToDirectory_of_makeDirectory attempt
  | error error =>
    simp only [attempt] at making
    split at making
    · rename_i there
      cases making
      exact there.2
    · cases making

theorem makeDirectory_of_leadsToDirectory {reversed : List (List UInt8)}
    (named : reversed ≠ []) (leads : tree.leadsToDirectory start reversed = true) :
    tree.makeDirectory start reversed = .error (.system .alreadyExists) := by
  obtain ⟨place, walked, directory⟩ := (leadsToDirectory_iff reversed).mp leads
  cases reversed with
  | nil => exact absurd rfl named
  | cons name parents =>
    rw [List.reverse_cons, walk_append] at walked
    unfold makeDirectory
    cases above : tree.walk start parents.reverse with
    | error error => simp [above, Except.bind] at walked
    | ok parent =>
      simp only [above, Except.bind, walk] at walked
      cases stepped : tree.step parent name with
      | error error => simp [stepped] at walked
      | ok last =>
        rw [stepped] at walked
        cases walked
        simp [above, bind, Except.bind, stepped, directory]

theorem ensureDirectory_of_leadsToDirectory {reversed : List (List UInt8)}
    (named : reversed ≠ []) (leads : tree.leadsToDirectory start reversed = true) :
    tree.ensureDirectory start reversed = .ok tree := by
  simp [ensureDirectory, makeDirectory_of_leadsToDirectory named leads, leads]

/-- A path along which there is nothing left to make. -/
structure IsMade (tree : FileTree) (workdir : Location) (path : Path) : Prop where
  noNul : path.bytes.contains 0 = false
  short : ¬ longestPath < path.bytes.length
  leads : path.names.reverse.dropWhile List.isEmpty ≠ [] →
    tree.leadsToDirectory (origin workdir path)
      (path.names.reverse.dropWhile List.isEmpty) = true

theorem IsMade.put (isMade : tree.IsMade workdir path)
    (notDirectory : tree.look target ≠ some .directory) :
    (tree.put target entry).IsMade workdir path :=
  { isMade with leads := fun named => leadsToDirectory_put notDirectory (isMade.leads named) }

end StagedFormat.FileTree
