import StagedFormat.Hook.Install
import StagedFormat.Proofs.Change
import StagedFormat.Proofs.Utf8

/-!
# One installation

An installation makes the directory of the hooks, reads the hook if there is one, and then writes it
or leaves it.  `run_install_of_accepted` says what each of these steps leaves; where the hook can be
reached, the last one cannot fail.
-/

set_option autoImplicit false

namespace StagedFormat.Hook

/-- Nothing is in the way of writing the hook, and there is no directory left to make. -/
structure Reaches (tree : FileTree) (workdir : Location) (directory : Path) (place : Location) :
    Prop where
  made : tree.IsMade workdir directory
  found : tree.find workdir (file directory) = .ok place
  notDirectory : tree.look place ≠ some .directory

variable {tree made : FileTree} {workdir place : Location} {directory : Path} {glob : String}
  {force : Bool}

theorem Reaches.put (reaches : Reaches tree workdir directory place) (content : List UInt8)
    (mode : Nat) : Reaches (tree.put place (.file content mode)) workdir directory place where
  made := reaches.made.put reaches.notDirectory
  found := FileTree.find_put reaches.notDirectory reaches.found
  notDirectory := by
    have below := FileTree.ne_top_of_look_ne reaches.notDirectory
    rw [FileTree.look_put_self tree place _ below]
    simp

/-! ## Reading the hook -/

theorem existing_of_look {content : List Char} {mode : Nat}
    (reaches : Reaches tree workdir directory place)
    (there : tree.look place = some (.file (Text.encode content) mode))
    (readable : tree.standing.mayRead mode = true) :
    existing tree workdir (file directory) = .ok (some content) := by
  have isThere : tree.exists? workdir (file directory) = true := by
    simp [FileTree.exists?, FileTree.entry?, reaches.found, there]
  rw [existing, if_pos isThere, FileTree.readText,
    FileTree.read_of_look reaches.found there readable]
  simp [bind, Except.bind, Text.decode?_encode, Except.map]

theorem existing_of_unreadable {content : List UInt8} {mode : Nat}
    (found : tree.find workdir (file directory) = .ok place)
    (there : tree.look place = some (.file content mode))
    (unreadable : tree.standing.mayRead mode = false) :
    existing tree workdir (file directory) = .error (.system .permissionDenied) := by
  have isThere : tree.exists? workdir (file directory) = true := by
    simp [FileTree.exists?, FileTree.entry?, found, there]
  rw [existing, if_pos isThere, FileTree.readText, FileTree.read]
  simp [found, there, unreadable, bind, Except.bind, Except.map]

theorem look_of_existing_none (reading : existing tree workdir (file directory) = .ok none)
    (found : tree.find workdir (file directory) = .ok place) : tree.look place = none := by
  cases there : tree.look place with
  | none => rfl
  | some entry =>
    have isThere : tree.exists? workdir (file directory) = true := by
      simp [FileTree.exists?, FileTree.entry?, found, there]
    rw [existing, if_pos isThere] at reading
    cases read : tree.readText workdir (file directory) <;> simp [read, Except.map] at reading

theorem look_of_existing_some {text : List Char}
    (reading : existing tree workdir (file directory) = .ok (some text)) :
    ∃ place mode, tree.find workdir (file directory) = .ok place ∧
      tree.look place = some (.file (Text.encode text) mode) ∧
      tree.standing.mayRead mode = true := by
  unfold existing at reading
  split at reading
  · simp only [FileTree.readText, FileTree.read, bind, Except.bind] at reading
    cases found : tree.find workdir (file directory) with
    | error error => simp [found, Except.map] at reading
    | ok place =>
      cases there : tree.look place with
      | none => simp [found, there, Except.map] at reading
      | some entry =>
        cases entry with
        | directory => simp [found, there, Except.map] at reading
        | file content mode =>
          cases readable : tree.standing.mayRead mode with
          | false => simp [found, there, readable, Except.map] at reading
          | true =>
            cases read : Text.decode? content with
            | none => simp [found, there, readable, read, Except.map] at reading
            | some decoded =>
              obtain rfl : decoded = text := by
                simpa [found, there, readable, read, Except.map] using reading
              rw [(Text.decode?_eq_some_iff content decoded).mp read] at there
              exact ⟨place, mode, rfl, there, readable⟩
  · cases reading

/-- A hook can be read where nothing is, and where a text is that may be read. -/
theorem exists_existing_iff (made : tree.IsMade workdir directory)
    (found : tree.find workdir (file directory) = .ok place) :
    (∃ hook, existing tree workdir (file directory) = .ok hook) ↔
      tree.look place = none ∨ ∃ text mode,
        tree.look place = some (.file (Text.encode text) mode) ∧
          tree.standing.mayRead mode = true := by
  constructor
  · rintro ⟨_ | text, reading⟩
    · exact .inl (look_of_existing_none reading found)
    · obtain ⟨same, mode, again, there⟩ := look_of_existing_some reading
      rw [found] at again
      cases again
      exact .inr ⟨text, mode, there⟩
  · rintro (vacant | ⟨text, mode, there, readable⟩)
    · have absent : tree.exists? workdir (file directory) = false := by
        simp [FileTree.exists?, FileTree.entry?, found, vacant]
      exact ⟨none, by simp [existing, absent]⟩
    · have reaches : Reaches tree workdir directory place := ⟨made, found, by simp [there]⟩
      exact ⟨some text, existing_of_look reaches there readable⟩

theorem look_ne_directory_of_existing {hook : Option (List Char)}
    (found : tree.find workdir (file directory) = .ok place)
    (reading : existing tree workdir (file directory) = .ok hook) :
    tree.look place ≠ some .directory := by
  intro isDirectory
  have isThere : tree.exists? workdir (file directory) = true := by
    simp [FileTree.exists?, FileTree.entry?, found, isDirectory]
  rw [existing, if_pos isThere, FileTree.readText, FileTree.read] at reading
  simp [found, isDirectory, bind, Except.bind, Except.map] at reading

theorem Reaches.of_existing {hook : Option (List Char)}
    (making : (Change.makeDirectories workdir directory).run tree = .ok () made)
    (found : made.find workdir (file directory) = .ok place)
    (reading : existing made workdir (file directory) = .ok hook) :
    Reaches made workdir directory place where
  made := Change.isMade_of_makeDirectories making
  found := found
  notDirectory := look_ne_directory_of_existing found reading

/-! ## Writing the hook -/

theorem run_store (tree : FileTree) (workdir : Location) (hook : Path) (content : List Char) :
    (store workdir hook content).run tree =
      match tree.write workdir hook (Text.encode content) with
      | .error error => .error error tree
      | .ok written =>
        match written.setMode workdir hook executableMode with
        | .error error => .error error written
        | .ok after => .ok () after := by
  rw [store, EStateM.run_bind, Change.run_step]
  cases tree.write workdir hook (Text.encode content) with
  | error error => rfl
  | ok written =>
    dsimp only
    rw [Change.run_step]
    cases written.setMode workdir hook executableMode <;> rfl

theorem store_of_reaches (reaches : Reaches tree workdir directory place)
    (content : List Char) :
    (store workdir (file directory) content).run tree =
      .ok () (tree.put place (.file (Text.encode content) executableMode)) := by
  obtain ⟨mode, written⟩ := FileTree.exists_write_eq_ok (Text.encode content) reaches.found
    reaches.notDirectory
  have after := reaches.put (Text.encode content) mode
  have below := FileTree.ne_top_of_look_ne reaches.notDirectory
  have there := FileTree.look_put_self tree place (.file (Text.encode content) mode) below
  rw [run_store, written]
  dsimp only
  rw [FileTree.setMode_of_look executableMode after.found there, FileTree.put_put]

/-- A hook in a directory that is there is written as a whole, or not at all: where its bytes can be
written, its mode can be set. -/
theorem store_cases (isMade : tree.IsMade workdir directory) (content : List Char) :
    (∃ place, Reaches tree workdir directory place ∧
      (store workdir (file directory) content).run tree =
        .ok () (tree.put place (.file (Text.encode content) executableMode))) ∨
    ∃ error, (store workdir (file directory) content).run tree = .error error tree := by
  cases written : tree.write workdir (file directory) (Text.encode content) with
  | error error => exact .inr ⟨error, by rw [run_store, written]⟩
  | ok midway =>
    obtain ⟨place, found, notDirectory⟩ : ∃ place,
        tree.find workdir (file directory) = .ok place ∧ tree.look place ≠ some .directory := by
      cases found : tree.find workdir (file directory) with
      | error error => simp [FileTree.write, found, bind, Except.bind] at written
      | ok place =>
        refine ⟨place, rfl, fun isDirectory => ?_⟩
        simp [FileTree.write, found, isDirectory, bind, Except.bind] at written
    have reaches : Reaches tree workdir directory place := ⟨isMade, found, notDirectory⟩
    exact .inl ⟨place, reaches, store_of_reaches reaches content⟩

/-! ## Installing -/

theorem run_install_of_rejected (tree : FileTree) (workdir : Location) (directory : Path)
    (force : Bool) (rejected : acceptsGlob glob.toList = false) :
    (install workdir directory glob force).run tree = .error (.unsupportedGlob glob) tree := by
  rw [install, if_neg (by simp [rejected])]
  rfl

theorem run_install_of_accepted (tree : FileTree) (workdir : Location) (directory : Path)
    (force : Bool) (accepted : acceptsGlob glob.toList = true) :
    (install workdir directory glob force).run tree =
      match (Change.makeDirectories workdir directory).run tree with
      | .error error left => .error (.access error) left
      | .ok _ made =>
        match existing made workdir (file directory) with
        | .error error => .error (.access error) made
        | .ok hook =>
          match update hook glob.toList force with
          | (answer, none) => .ok answer made
          | (answer, some content) =>
            match (store workdir (file directory) content).run made with
            | .ok _ after => .ok answer after
            | .error error left => .error (.access error) left := by
  rw [install, if_pos accepted, EStateM.run_adaptExcept, EStateM.run_bind]
  cases (Change.makeDirectories workdir directory).run tree with
  | error error left => rfl
  | ok done made =>
    dsimp only
    rw [EStateM.run_bind, EStateM.run_get]
    dsimp only
    rw [EStateM.run_bind, Change.run_ofExcept]
    cases existing made workdir (file directory) with
    | error error => rfl
    | ok hook =>
      dsimp only
      cases update hook glob.toList force with
      | mk answer next =>
        cases next with
        | none => rfl
        | some content =>
          dsimp only
          rw [EStateM.run_bind]
          cases (store workdir (file directory) content).run made <;> rfl

variable {hook : Option (List Char)} {answer : Installation} {error : AccessError}

theorem install_of_unmade (force : Bool) (accepted : acceptsGlob glob.toList = true)
    (making : (Change.makeDirectories workdir directory).run tree = .error error made) :
    (install workdir directory glob force).run tree = .error (.access error) made := by
  simp only [run_install_of_accepted tree workdir directory force accepted, making]

theorem install_of_unread (force : Bool) (accepted : acceptsGlob glob.toList = true)
    (making : (Change.makeDirectories workdir directory).run tree = .ok () made)
    (reading : existing made workdir (file directory) = .error error) :
    (install workdir directory glob force).run tree = .error (.access error) made := by
  simp only [run_install_of_accepted tree workdir directory force accepted, making, reading]

theorem install_of_update_none (accepted : acceptsGlob glob.toList = true)
    (making : (Change.makeDirectories workdir directory).run tree = .ok () made)
    (reading : existing made workdir (file directory) = .ok hook)
    (updated : update hook glob.toList force = (answer, none)) :
    (install workdir directory glob force).run tree = .ok answer made := by
  simp only [run_install_of_accepted tree workdir directory force accepted, making, reading,
    updated]

theorem install_of_update_some {content : List Char} (accepted : acceptsGlob glob.toList = true)
    (making : (Change.makeDirectories workdir directory).run tree = .ok () made)
    (reaches : Reaches made workdir directory place)
    (reading : existing made workdir (file directory) = .ok hook)
    (updated : update hook glob.toList force = (answer, some content)) :
    (install workdir directory glob force).run tree =
      .ok answer (made.put place (.file (Text.encode content) executableMode)) := by
  simp only [run_install_of_accepted tree workdir directory force accepted, making, reading,
    updated, store_of_reaches reaches content]

end StagedFormat.Hook
