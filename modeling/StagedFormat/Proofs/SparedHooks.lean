import StagedFormat.Proofs.ForcedInstall

/-!
# Hooks that are spared

Installing writes to a hook in its last step only.  Until then it makes directories, and reads.  So
a hook that cannot be reached or read as text keeps its bytes and its permission bits, like one that
mentions this program already.  A hook that was written mentions it and can be read, so that from
there on an installation leaves the tree alone, unless it is forced.
-/

set_option autoImplicit false

namespace StagedFormat

namespace Hook

variable {tree made after : FileTree} {workdir place : Location} {directory : Path}
  {glob : String} {force : Bool} {answer : Installation}

theorem acceptsGlob_iff (glob : List Char) :
    acceptsGlob glob = true ↔ glob ≠ [] ∧ '\x27' ∉ glob := by
  simp [acceptsGlob]

/-! ## What there is -/

/-- Where the hook of a directory is, once the directory has been made.  Along the path to the
hook, a directory may be missing before. -/
def HookAt (tree : FileTree) (workdir : Location) (directory : Path) (place : Location) : Prop :=
  ∃ made, (Change.makeDirectories workdir directory).run tree = .ok () made ∧
    made.find workdir (file directory) = .ok place

/-! ## The way to it -/

theorem exists_bytes_file (directory : Path) :
    ∃ rest, (file directory).bytes = directory.bytes ++ rest := by
  have relative : (Path.ofText "pre-commit").isAbsolute = false := by decide
  unfold file Path.join
  rw [if_neg (by simp [relative])]
  split
  · exact ⟨_, rfl⟩
  · exact ⟨_, rfl⟩

/-- The directory of a hook is named by the names of the hook's path but the last. -/
theorem names_file (named : directory.bytes ≠ []) :
    ∃ above, (file directory).names = above ++ [Text.bytesOf "pre-commit"] ∧
      directory.names.reverse.dropWhile List.isEmpty = above.reverse.dropWhile List.isEmpty := by
  have last : Text.pieces (· == Path.slash) (Text.bytesOf "pre-commit") =
      [Text.bytesOf "pre-commit"] := by decide
  have relative : (Path.ofText "pre-commit").isAbsolute = false := by decide
  unfold file Path.join
  rw [if_neg (by simp [relative])]
  by_cases apart : directory.needsSlash = true
  · rw [if_pos apart]
    refine ⟨directory.names, ?_, rfl⟩
    rw [Path.names, Text.pieces_append_separator _ _ _ _ (by simp), Path.ofText, last]
    rfl
  · rw [if_neg apart]
    -- The path of the directory ends with a slash, and the empty name behind it gives way.
    obtain ⟨front, whole⟩ : ∃ front, directory.bytes = front ++ [Path.slash] := by
      rcases List.eq_nil_or_concat' directory.bytes with empty | ⟨front, byte, shape⟩
      · exact absurd empty named
      · have slash : byte = Path.slash := by
          simpa [Path.needsSlash, shape] using apart
        exact ⟨front, by rw [shape, slash]⟩
    refine ⟨Text.pieces (· == Path.slash) front, ?_, ?_⟩
    · rw [Path.names, whole, List.append_assoc, List.singleton_append,
        Text.pieces_append_separator _ _ _ _ (by simp), Path.ofText, last]
    · rw [Path.names, whole, Text.pieces_append_separator _ _ _ _ (by simp), List.reverse_append]
      rfl

theorem origin_file (workdir : Location) (directory : Path) :
    FileTree.origin workdir (file directory) = FileTree.origin workdir directory := by
  have same : (file directory).isAbsolute = directory.isAbsolute := by
    obtain ⟨bytes⟩ := directory
    cases bytes with
    | nil => decide
    | cons byte rest =>
      obtain ⟨more, whole⟩ := exists_bytes_file ⟨byte :: rest⟩
      rw [Path.isAbsolute, whole]
      rfl
  rw [FileTree.origin, same, FileTree.origin]

/-- Whoever finds the hook has come through its directory. -/
theorem isMade_of_find (found : tree.find workdir (file directory) = .ok place) :
    tree.IsMade workdir directory := by
  obtain ⟨rest, bytes⟩ := exists_bytes_file directory
  unfold FileTree.find at found
  split at found
  · cases found
  split at found
  · cases found
  split at found
  · cases found
  rename_i noNul _ short
  rw [bytes] at noNul short
  have plain : directory.bytes.contains 0 = false := by
    have both : 0 ∉ directory.bytes ∧ 0 ∉ rest := by simpa using noNul
    simpa using both.1
  refine ⟨plain, by rw [List.length_append] at short; omega, ?_⟩
  intro someName
  have named : directory.bytes ≠ [] := by
    intro empty
    simp [Path.names, empty, Text.pieces] at someName
  obtain ⟨above, names, same⟩ := names_file named
  rw [names, FileTree.walk_append, origin_file] at found
  rw [same]
  cases walked : tree.walk (FileTree.origin workdir directory) above with
  | error error => simp [walked, Except.bind] at found
  | ok parent =>
    simp only [walked, Except.bind, FileTree.walk] at found
    cases stepped : tree.step parent (Text.bytesOf "pre-commit") with
    | error error => simp [stepped] at found
    | ok next =>
      exact FileTree.leadsToDirectory_dropWhile walked (FileTree.look_of_step_eq_ok stepped)

/-! ## What becomes of it -/

theorem update_of_mention {text : List Char} (mentioned : toolName <:+: text)
    (glob : List Char) : update (some text) glob false = (.alreadyInstalled, none) := by
  by_cases marked : mentions beginMarker text = true
  · simp [update, marked]
  · simp [update, marked, (mentions_iff toolName text).mpr mentioned]

theorem mention_of_update_none {hook : Option (List Char)} {glob : List Char}
    (updated : update hook glob force = (answer, none)) :
    answer = .alreadyInstalled ∧ force = false ∧
      ∃ text, hook = some text ∧ toolName <:+: text := by
  unfold update at updated
  split at updated
  · cases updated
  · rename_i text
    split at updated
    · rename_i marked
      split at updated
      · cases updated
      · rename_i unforced
        cases updated
        have marker := (mentions_iff beginMarker text).mp marked
        exact ⟨rfl, by simpa using unforced, text, rfl, toolName_infix_beginMarker.trans marker⟩
    · split at updated
      · rename_i mentioned
        split at updated
        · cases updated
        · rename_i unforced
          cases updated
          exact ⟨rfl, by simpa using unforced, text, rfl, (mentions_iff toolName text).mp mentioned⟩
      · cases updated

theorem marker_infix_sectionFor (glob : List Char) : beginMarker <:+: sectionFor glob := by
  rw [sectionFor, beforeGlob, List.append_assoc, List.append_assoc]
  exact (List.prefix_append _ _).isInfix

/-- What is written has a section and is not the answer that nothing had to be done.  If it is not
forced, it goes behind what was there. -/
theorem marker_of_update_some {hook : Option (List Char)} {glob content : List Char}
    (updated : update hook glob force = (answer, some content)) :
    answer ≠ .alreadyInstalled ∧ beginMarker <:+: content ∧
      (force = false → ∀ old ∈ hook, Text.trimEnd old <+: content) := by
  have inNew : beginMarker <:+: newHook glob :=
    (marker_infix_sectionFor glob).trans (List.suffix_append _ _).isInfix
  have behind : ∀ text, beginMarker <:+: withSection text glob := by
    intro text
    refine (marker_infix_sectionFor glob).trans (List.IsSuffix.isInfix ?_)
    exact ⟨Text.trimEnd text ++ ['\n', '\n'], by simp [withSection]⟩
  unfold update at updated
  split at updated
  · cases updated
    exact ⟨by simp, inNew, by simp⟩
  · rename_i text
    split at updated
    · split at updated
      · rename_i forced
        cases updated
        exact ⟨by simp, behind _, by simp [forced]⟩
      · cases updated
    · split at updated
      · split at updated
        · rename_i forced
          cases updated
          exact ⟨by simp, inNew, by simp [forced]⟩
        · cases updated
      · cases updated
        refine ⟨by simp, behind text, fun _ old member => ?_⟩
        obtain rfl : text = old := by simpa using member
        exact List.prefix_append _ _

/-! ## Installing -/

/-- All that an installation can come to: the glob is rejected, it stops before it has written
anything, it spares a hook that mentions this program, or it writes the hook. -/
inductive ComesTo (tree : FileTree) (workdir : Location) (directory : Path) (glob : String)
    (force : Bool) : EStateM.Result InstallError FileTree Installation → Prop
  | rejected (rejected : acceptsGlob glob.toList = false) :
    ComesTo tree workdir directory glob force (.error (.unsupportedGlob glob) tree)
  | stopped (accepted : acceptsGlob glob.toList = true) (error : AccessError) (left : FileTree)
      (gains : tree.GainsDirectories left)
      (making : ∀ made, (Change.makeDirectories workdir directory).run tree = .ok () made →
        left = made) :
    ComesTo tree workdir directory glob force (.error (.access error) left)
  | spared (accepted : acceptsGlob glob.toList = true) (unforced : force = false)
      (made : FileTree) (text : List Char)
      (making : (Change.makeDirectories workdir directory).run tree = .ok () made)
      (gains : tree.GainsDirectories made)
      (reading : existing made workdir (file directory) = .ok (some text))
      (mentioned : toolName <:+: text) :
    ComesTo tree workdir directory glob force (.ok .alreadyInstalled made)
  | written (accepted : acceptsGlob glob.toList = true) (answer : Installation)
      (made : FileTree) (hook : Option (List Char)) (place : Location) (content : List Char)
      (making : (Change.makeDirectories workdir directory).run tree = .ok () made)
      (gains : tree.GainsDirectories made)
      (reading : existing made workdir (file directory) = .ok hook)
      (reaches : Reaches made workdir directory place)
      (updated : update hook glob.toList force = (answer, some content)) :
    ComesTo tree workdir directory glob force
      (.ok answer (made.put place (.file (Text.encode content) executableMode)))

theorem comesTo_install (tree : FileTree) (workdir : Location) (directory : Path)
    (glob : String) (force : Bool) :
    ComesTo tree workdir directory glob force
      ((install workdir directory glob force).run tree) := by
  by_cases accepted : acceptsGlob glob.toList = true
  · rw [run_install_of_accepted tree workdir directory force accepted]
    have gains := Change.gains_makeDirectories tree workdir directory
    cases making : (Change.makeDirectories workdir directory).run tree with
    | error error left =>
      rw [making] at gains
      refine .stopped accepted error left gains fun made other => ?_
      rw [making] at other
      cases other
    | ok done made =>
      rw [making] at gains
      have only : ∀ other, (Change.makeDirectories workdir directory).run tree = .ok () other →
          made = other := by
        intro other again
        rw [making] at again
        cases again
        rfl
      dsimp only
      cases reading : existing made workdir (file directory) with
      | error error => exact .stopped accepted error made gains only
      | ok hook =>
        dsimp only
        cases updated : update hook glob.toList force with
        | mk answer next =>
          cases next with
          | none =>
            obtain ⟨rfl, unforced, text, rfl, mentioned⟩ := mention_of_update_none updated
            exact .spared accepted unforced made text making gains reading mentioned
          | some content =>
            dsimp only
            rcases store_cases (Change.isMade_of_makeDirectories making) content with
              ⟨place, reaches, stored⟩ | ⟨error, refused⟩
            · rw [stored]
              exact .written accepted answer made hook place content making gains reading reaches
                updated
            · rw [refused]
              exact .stopped accepted error made gains only
  · rw [run_install_of_rejected tree workdir directory force (by simpa using accepted)]
    exact .rejected (by simpa using accepted)

/-! ## Hooks before and after -/

/-- At most, directories on the way to the hook were made, and none if there was a way. -/
structure Spares (tree after : FileTree) (workdir : Location) (directory : Path) : Prop where
  gains : tree.GainsDirectories after
  same : ∀ place, tree.find workdir (file directory) = .ok place → after = tree

/-- What a written hook is like.  Unforced, it begins with what was there.  All else is as before,
but for directories that were made. -/
structure Writes (tree after : FileTree) (place : Location) (force : Bool) : Prop where
  written : ∃ content, after.look place = some (.file (Text.encode content) 0o755) ∧
    beginMarker <:+: content ∧
    ∀ bytes mode, tree.look place = some (.file bytes mode) →
      ∃ old, bytes = Text.encode old ∧ (force = false → Text.trimEnd old <+: content)
  elsewhere : ∀ other, other ≠ place → after.look other = tree.look other ∨
    tree.look other = none ∧ after.look other = some .directory

theorem writes_of_reaches {hook : Option (List Char)} {content : List Char}
    (gains : tree.GainsDirectories made)
    (reading : existing made workdir (file directory) = .ok hook)
    (reaches : Reaches made workdir directory place)
    (updated : update hook glob.toList force = (answer, some content)) :
    Writes tree (made.put place (.file (Text.encode content) executableMode)) place force := by
  obtain ⟨-, marked, behind⟩ := marker_of_update_some updated
  have below := FileTree.ne_top_of_look_ne reaches.notDirectory
  refine ⟨⟨content, FileTree.look_put_self made place _ below, marked, ?_⟩, ?_⟩
  · intro bytes mode before
    have there := (gains.look_file_iff bytes mode).mpr before
    cases hook with
    | none =>
      rw [look_of_existing_none reading reaches.found] at there
      cases there
    | some old =>
      obtain ⟨same, oldMode, found, isText, -⟩ := look_of_existing_some reading
      rw [reaches.found] at found
      cases found
      rw [there] at isText
      cases isText
      exact ⟨old, rfl, fun unforced => behind unforced old rfl⟩
  · intro other different
    rw [FileTree.look_put_of_ne made place other _ different]
    exact gains.look other

/-- A hook that mentions this program is spared, and the tree stays as it is if its directory is
there. -/
theorem install_of_mention {text : List Char} {next : String}
    (accepted : acceptsGlob next.toList = true) (isMade : tree.IsMade workdir directory)
    (reading : existing tree workdir (file directory) = .ok (some text))
    (mentioned : toolName <:+: text) :
    (install workdir directory next false).run tree = .ok .alreadyInstalled tree := by
  exact install_of_update_none accepted (Change.makeDirectories_of_isMade isMade) reading
    (update_of_mention mentioned next.toList)

theorem spares_of_error {error : InstallError}
    (failed : (install workdir directory glob force).run tree = .error error after) :
    Spares tree after workdir directory := by
  have comes := comesTo_install tree workdir directory glob force
  rw [failed] at comes
  cases comes with
  | rejected rejected => exact ⟨.refl tree, fun _ _ => rfl⟩
  | stopped accepted error left gains making =>
    refine ⟨gains, fun place found => ?_⟩
    exact making tree (Change.makeDirectories_of_isMade (isMade_of_find found))

theorem spares_of_alreadyInstalled
    (spares : (install workdir directory glob force).run tree =
      .ok .alreadyInstalled after) : Spares tree after workdir directory := by
  have comes := comesTo_install tree workdir directory glob force
  rw [spares] at comes
  cases comes with
  | spared accepted unforced made text making gains reading mentioned =>
    refine ⟨gains, fun place found => ?_⟩
    rw [Change.makeDirectories_of_isMade (isMade_of_find found)] at making
    cases making
    rfl
  | written accepted answer made hook place content making gains reading reaches updated =>
    exact absurd rfl (marker_of_update_some updated).1

theorem alreadyInstalled_iff (tree : FileTree) (workdir : Location) (directory : Path)
    (glob : String) (force : Bool) :
    (∃ after, (install workdir directory glob force).run tree =
        .ok .alreadyInstalled after) ↔
      acceptsGlob glob.toList = true ∧ force = false ∧
        ∃ place text mode, HookAt tree workdir directory place ∧
          tree.look place = some (.file (Text.encode text) mode) ∧
          tree.standing.mayRead mode = true ∧ toolName <:+: text := by
  constructor
  · rintro ⟨after, spares⟩
    have comes := comesTo_install tree workdir directory glob force
    rw [spares] at comes
    cases comes with
    | spared accepted unforced made text making gains reading mentioned =>
      obtain ⟨place, mode, found, there, readable⟩ := look_of_existing_some reading
      rw [gains.standing] at readable
      exact ⟨accepted, unforced, place, text, mode, ⟨_, making, found⟩,
        (gains.look_file_iff _ mode).mp there, readable, mentioned⟩
    | written accepted answer made hook place content making gains reading reaches updated =>
      exact absurd rfl (marker_of_update_some updated).1
  · rintro ⟨accepted, rfl, place, text, mode, ⟨made, making, found⟩, before, readable, mentioned⟩
    have gains := Change.gainsDirectories_of_makeDirectories making
    have there := (gains.look_file_iff (Text.encode text) mode).mpr before
    rw [← gains.standing] at readable
    have reaches : Reaches made workdir directory place :=
      ⟨Change.isMade_of_makeDirectories making, found, by simp [there]⟩
    exact ⟨made, install_of_update_none accepted making (existing_of_look reaches there readable)
      (update_of_mention mentioned glob.toList)⟩

/-- An installation that succeeds has read the hook. -/
theorem exists_existing_of_ok
    (installed : (install workdir directory glob force).run tree = .ok answer after) :
    acceptsGlob glob.toList = true ∧ ∃ made hook,
      (Change.makeDirectories workdir directory).run tree = .ok () made ∧
        existing made workdir (file directory) = .ok hook := by
  have comes := comesTo_install tree workdir directory glob force
  rw [installed] at comes
  cases comes with
  | spared accepted unforced made text making gains reading mentioned =>
    exact ⟨accepted, _, _, making, reading⟩
  | written accepted answer made hook place content making gains reading reaches updated =>
    exact ⟨accepted, made, hook, making, reading⟩

theorem install_succeeds_iff (force : Bool)
    (making : (Change.makeDirectories workdir directory).run tree = .ok () made)
    (found : made.find workdir (file directory) = .ok place) :
    (∃ answer after, (install workdir directory glob force).run tree = .ok answer after) ↔
      acceptsGlob glob.toList = true ∧ (made.look place = none ∨
        ∃ text mode, made.look place = some (.file (Text.encode text) mode) ∧
          made.standing.mayRead mode = true) := by
  have readable := exists_existing_iff (Change.isMade_of_makeDirectories making) found
  constructor
  · rintro ⟨answer, after, installed⟩
    obtain ⟨accepted, other, hook, remaking, reading⟩ := exists_existing_of_ok installed
    rw [making] at remaking
    cases remaking
    exact ⟨accepted, readable.mp ⟨hook, reading⟩⟩
  · rintro ⟨accepted, mayRead⟩
    obtain ⟨hook, reading⟩ := readable.mpr mayRead
    have reaches := Reaches.of_existing making found reading
    cases updated : update hook glob.toList force with
    | mk answer next =>
      cases next with
      | none => exact ⟨answer, made, install_of_update_none accepted making reading updated⟩
      | some content =>
        exact ⟨answer, _, install_of_update_some accepted making reaches reading updated⟩

theorem exists_writes_of_ok
    (installed : (install workdir directory glob force).run tree = .ok answer after)
    (other : answer ≠ .alreadyInstalled) :
    ∃ place, HookAt tree workdir directory place ∧ Writes tree after place force := by
  have comes := comesTo_install tree workdir directory glob force
  rw [installed] at comes
  cases comes with
  | spared accepted unforced made text making gains reading mentioned => exact absurd rfl other
  | written accepted answer made hook place content making gains reading reaches updated =>
    exact ⟨place, ⟨made, making, reaches.found⟩, writes_of_reaches gains reading reaches updated⟩

theorem install_again {next : String}
    (installed : (install workdir directory glob force).run tree = .ok answer after)
    (accepted : acceptsGlob next.toList = true) :
    (install workdir directory next false).run after = .ok .alreadyInstalled after := by
  have comes := comesTo_install tree workdir directory glob force
  rw [installed] at comes
  cases comes with
  | spared _ unforced made text making gains reading mentioned =>
    exact install_of_mention accepted (Change.isMade_of_makeDirectories making) reading
      mentioned
  | written _ answer made hook place content making gains reading reaches updated =>
    have still := reaches.put (Text.encode content) executableMode
    have there := FileTree.look_put_self made place (.file (Text.encode content) executableMode)
      (FileTree.ne_top_of_look_ne reaches.notDirectory)
    exact install_of_mention accepted still.made (existing_of_look still there (by simp))
      (toolName_infix_beginMarker.trans (marker_of_update_some updated).2.1)

/-- An installation that fails has at most made directories, and none if the glob is rejected.  It
spares a hook that mentions this program, if it can be read and unless it is forced.  Otherwise, if
it succeeds, it writes a hook that can be run and has a section, behind what was there unless it is
forced.  It fails on everything else that is in the place of the hook.  From any success on, whoever
installs unforced finds the program installed and changes nothing. -/
theorem install_spares (tree : FileTree) (workdir : Location) (directory : Path)
    (glob : String) (force : Bool) :
    (glob.toList = [] ∨ '\x27' ∈ glob.toList →
      (install workdir directory glob force).run tree = .error (.unsupportedGlob glob) tree) ∧
    (∀ error after, (install workdir directory glob force).run tree = .error error after →
      Spares tree after workdir directory) ∧
    ((∃ after, (install workdir directory glob force).run tree = .ok .alreadyInstalled after) ↔
      (glob.toList ≠ [] ∧ '\x27' ∉ glob.toList) ∧ force = false ∧
        ∃ place text mode, HookAt tree workdir directory place ∧
          tree.look place = some (.file (Text.encode text) mode) ∧
          tree.standing.mayRead mode = true ∧ toolName <:+: text) ∧
    (∀ after, (install workdir directory glob force).run tree = .ok .alreadyInstalled after →
      Spares tree after workdir directory) ∧
    (∀ answer after, (install workdir directory glob force).run tree = .ok answer after →
      answer ≠ .alreadyInstalled →
        ∃ place, HookAt tree workdir directory place ∧ Writes tree after place force) ∧
    (∀ made place, (Change.makeDirectories workdir directory).run tree = .ok () made →
      made.find workdir (file directory) = .ok place →
        ((∃ answer after, (install workdir directory glob force).run tree = .ok answer after) ↔
          (glob.toList ≠ [] ∧ '\x27' ∉ glob.toList) ∧ (made.look place = none ∨
            ∃ text mode, made.look place = some (.file (Text.encode text) mode) ∧
              made.standing.mayRead mode = true))) ∧
    (∀ answer after next, (install workdir directory glob force).run tree = .ok answer after →
      next.toList ≠ [] ∧ '\x27' ∉ next.toList →
        (install workdir directory next false).run after = .ok .alreadyInstalled after) := by
  refine ⟨?_, ?_, ?_, ?_, ?_, ?_, ?_⟩
  · intro unsupported
    apply run_install_of_rejected
    rw [← Bool.not_eq_true, acceptsGlob_iff, not_and_or, not_not, not_not]
    exact unsupported
  · intro error after failed
    exact spares_of_error failed
  · rw [← acceptsGlob_iff]
    exact alreadyInstalled_iff tree workdir directory glob force
  · intro after spares
    exact spares_of_alreadyInstalled spares
  · intro answer after installed other
    exact exists_writes_of_ok installed other
  · intro made place making found
    rw [← acceptsGlob_iff]
    exact install_succeeds_iff force making found
  · intro answer after next installed plain
    exact install_again installed ((acceptsGlob_iff _).mpr plain)

def hookTree (content : List UInt8) (mode : Nat) : FileTree :=
  hooksTree.put hookPlace (.file content mode)

theorem reaches_hookTree (content : List UInt8) (mode : Nat) :
    Reaches (hookTree content mode) .top (.ofText "hooks") hookPlace :=
  reaches_hooksTree.put content mode

theorem look_hookTree (content : List UInt8) (mode : Nat) :
    (hookTree content mode).look hookPlace = some (.file content mode) :=
  FileTree.look_put_self hooksTree hookPlace _ (by decide)

def mentionHook : List Char := "#!/bin/sh\nspotless-staged $(git diff --name-only)\n".toList

/-- A glob that is rejected, a hook that is no text, one of another program, and one that was
written by hand, which is spared or replaced. -/
theorem install_spares_hooks :
    (install .top (.ofText "hooks") "it's" true).run .empty =
      .error (.unsupportedGlob "it's") .empty ∧
    (∃ after, (install .top (.ofText "hooks") "*.java" true).run (hookTree [0xFF] 0o700) =
        .error (.access .notText) after ∧
      Spares (hookTree [0xFF] 0o700) after .top (.ofText "hooks")) ∧
    (∃ after, (install .top (.ofText "hooks") "*.java" false).run
        (hookTree (Text.encode lintHook) 0o600) = .ok .appended after ∧
      (∃ place, HookAt (hookTree (Text.encode lintHook) 0o600) .top (.ofText "hooks") place ∧
        Writes (hookTree (Text.encode lintHook) 0o600) after place false) ∧
      (install .top (.ofText "hooks") "*.kt" false).run after = .ok .alreadyInstalled after) ∧
    (∃ after, (install .top (.ofText "hooks") "*.java" false).run
        (hookTree (Text.encode mentionHook) 0o600) = .ok .alreadyInstalled after) ∧
    ∃ after, (install .top (.ofText "hooks") "*.java" true).run
        (hookTree (Text.encode mentionHook) 0o600) = .ok .replaced after ∧
      ∃ place, HookAt (hookTree (Text.encode mentionHook) 0o600) .top (.ofText "hooks") place ∧
        Writes (hookTree (Text.encode mentionHook) 0o600) after place true := by
  have making : ∀ content mode, (Change.makeDirectories .top (.ofText "hooks")).run
      (hookTree content mode) = .ok () (hookTree content mode) := fun content mode =>
    Change.makeDirectories_of_isMade (reaches_hookTree content mode).made
  have reading : ∀ text, existing (hookTree (Text.encode text) 0o600) .top
      (file (.ofText "hooks")) = .ok (some text) := fun text =>
    existing_of_look (reaches_hookTree _ _) (look_hookTree _ _)
      (show Standing.owner.mayRead 0o600 = true by decide)
  have binaryReading : existing (hookTree [0xFF] 0o700) .top (file (.ofText "hooks")) =
      .error .notText := by decide
  obtain ⟨rejected, -⟩ := install_spares .empty .top (.ofText "hooks") "it's" true
  obtain ⟨-, binary, -⟩ :=
    install_spares (hookTree [0xFF] 0o700) .top (.ofText "hooks") "*.java" true
  obtain ⟨-, -, -, -, appended, -, again⟩ :=
    install_spares (hookTree (Text.encode lintHook) 0o600) .top (.ofText "hooks") "*.java" false
  obtain ⟨-, -, spared, -⟩ :=
    install_spares (hookTree (Text.encode mentionHook) 0o600) .top (.ofText "hooks") "*.java" false
  obtain ⟨-, -, -, -, replaced, -⟩ :=
    install_spares (hookTree (Text.encode mentionHook) 0o600) .top (.ofText "hooks") "*.java" true
  have accepted : acceptsGlob "*.java".toList = true := by decide
  have unread := install_of_unread true accepted (making [0xFF] 0o700) binaryReading
  have behind := install_of_update_some accepted (making _ _) (reaches_hookTree _ _)
    (reading lintHook) (show update _ _ false = (.appended, some _) from rfl)
  have anew := install_of_update_some accepted (making _ _) (reaches_hookTree _ _)
    (reading mentionHook) (show update _ _ true = (.replaced, some _) from rfl)
  refine ⟨rejected (by decide), ⟨_, unread, binary _ _ unread⟩,
    ⟨_, behind, appended _ _ behind (by decide), again _ _ "*.kt" behind (by decide)⟩,
    spared.mpr ⟨by decide, rfl, hookPlace, mentionHook, 0o600,
      ⟨_, making _ _, (reaches_hookTree _ _).found⟩, look_hookTree _ _, by decide, ?_⟩,
    ⟨_, anew, replaced _ _ anew (by decide)⟩⟩
  exact (mentions_iff _ _).mp (by decide)

def dottedHooks (times : Nat) : Path :=
  ⟨(List.replicate times [0x2E, Path.slash]).flatten ++ Text.bytesOf "hooks"⟩

theorem noNul_dottedHooks (times : Nat) : (dottedHooks times).bytes.contains 0 = false := by
  have plain : (0 : UInt8) ∉ Text.bytesOf "hooks" := by decide
  simp [dottedHooks, Path.slash, plain]

theorem length_dottedHooks (times : Nat) :
    (dottedHooks times).bytes.length = 2 * times + 5 := by
  have name : (Text.bytesOf "hooks").length = 5 := by decide
  simp [dottedHooks, name, Nat.mul_comm]

/-- A hook that mentions this program and could be written is not found to be installed, where it
may not be read or where its path is too long. -/
theorem install_misses_unread_mention :
    toolName <:+: mentionHook ∧ acceptsGlob "*.java".toList = true ∧
    HookAt (hookTree (Text.encode mentionHook) 0o200) .top (.ofText "hooks") hookPlace ∧
    (hookTree (Text.encode mentionHook) 0o200).look hookPlace =
      some (.file (Text.encode mentionHook) 0o200) ∧
    (∀ content, ∃ after, (store .top (file (.ofText "hooks")) content).run
      (hookTree (Text.encode mentionHook) 0o200) = .ok () after) ∧
    (install .top (.ofText "hooks") "*.java" false).run
        (hookTree (Text.encode mentionHook) 0o200) =
      .error (.access (.system .permissionDenied)) (hookTree (Text.encode mentionHook) 0o200) ∧
    (install .top (dottedHooks 2048) "*.java" false).run
        (hookTree (Text.encode mentionHook) 0o644) =
      .error (.access (.system .nameTooLong)) (hookTree (Text.encode mentionHook) 0o644) := by
  have reaches := reaches_hookTree (Text.encode mentionHook) 0o200
  have making := Change.makeDirectories_of_isMade reaches.made
  have accepted : acceptsGlob "*.java".toList = true := by decide
  have long : FileTree.longestPath < (dottedHooks 2048).bytes.length := by
    rw [length_dottedHooks]
    decide
  refine ⟨(mentions_iff _ _).mp (by decide), accepted, ⟨_, making, reaches.found⟩,
    look_hookTree _ _, fun content => ⟨_, store_of_reaches reaches content⟩, ?_, ?_⟩
  · exact install_of_unread false accepted making
      (existing_of_unreadable reaches.found (look_hookTree _ _) (by decide))
  · exact install_of_unmade false accepted 
      (Change.makeDirectories_of_long .top (noNul_dottedHooks 2048) long)

end Hook

end StagedFormat
