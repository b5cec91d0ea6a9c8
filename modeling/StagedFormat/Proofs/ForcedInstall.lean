import StagedFormat.Proofs.HookInvariant
import StagedFormat.Proofs.SectionRemoval

/-!
# Forced installations

A forced installation writes the section behind a text that depends on the hook alone: what is left
of the hook without sections, or the first lines of a new hook.  Doing it again leaves that text
where it has no carriage returns; the line ends of any other text become line feeds.
-/

set_option autoImplicit false

namespace StagedFormat.Hook

open Text (withoutReturns withLineFeeds)

/-! ## The text in front of the section -/

/-- What a forced installation writes in front of the section is the same for all globs.  Whatever
the hook was, it has no marker and no blanks at its end, and no carriage return that the hook had
not. -/
theorem exists_update_forced (hook : Option (List Char)) :
    ∃ answer own, Kept own own ∧ ((∀ text ∈ hook, '\r' ∉ text) → '\r' ∉ own) ∧
      ∀ glob, update hook glob true =
        (answer, some (own ++ '\n' :: '\n' :: sectionFor glob)) := by
  have header : Kept (ownText none) (ownText none) := kept_ownText none (by simp)
  have headerPlain : '\r' ∉ ownText none := by decide
  cases hook with
  | none =>
    refine ⟨.created, ownText none, header, fun _ => headerPlain, fun glob => ?_⟩
    rw [update, newHook_eq]
  | some text =>
    by_cases marked : mentions beginMarker text = true
    · refine ⟨.replaced, Text.trimEnd (removeSection text),
        .refl (Text.trimEnd_trimEnd _) (unmarked_removeSection text).trimEnd,
        fun noReturn => noReturn_trimEnd _ (noReturn_removeSection text (noReturn text rfl)),
        fun glob => ?_⟩
      simp only [update, marked, if_true, withSection]
    · by_cases named : mentions toolName text = true
      · refine ⟨.replaced, ownText none, header, fun _ => headerPlain, fun glob => ?_⟩
        simp only [update, if_neg marked, named, if_true, newHook_eq]
      · have foreign : ¬ toolName <:+: text := by rwa [← mentions_iff]
        refine ⟨.appended, Text.trimEnd text,
          .refl (Text.trimEnd_trimEnd text) (unmarked_of_foreign text foreign),
          fun noReturn => noReturn_trimEnd text (noReturn text rfl), fun glob => ?_⟩
        simp only [update, if_neg marked, if_neg named, withSection]

/-! ## Installing by force -/

variable {tree made : FileTree} {workdir place : Location} {directory : Path}

def withHook (tree : FileTree) (place : Location) (own glob : List Char) : FileTree :=
  tree.put place (.file (Text.encode (own ++ '\n' :: '\n' :: sectionFor glob)) executableMode)

theorem read_withHook (reaches : Reaches tree workdir directory place) (own glob : List Char) :
    (withHook tree place own glob).read workdir (file directory) =
      .ok (Text.encode (own ++ '\n' :: '\n' :: sectionFor glob)) :=
  FileTree.read_of_look (reaches.put _ _).found
    (FileTree.look_put_self tree place _ (FileTree.ne_top_of_look_ne reaches.notDirectory))
    (by simp [withHook])

theorem install_forced_withHook (reaches : Reaches tree workdir directory place)
    (own glob : List Char) (next : String) (oneLine : '\n' ∉ glob) (unmarked : Unmarked own)
    (trimmed : Text.trimEnd own = own) (accepted : acceptsGlob next.toList = true) :
    (install workdir directory next true).run (withHook tree place own glob) =
      .ok .replaced (withHook tree place (withoutReturns own) next.toList) := by
  have still := reaches.put
    (Text.encode (own ++ '\n' :: '\n' :: sectionFor glob)) executableMode
  have there := FileTree.look_put_self tree place
    (.file (Text.encode (own ++ '\n' :: '\n' :: sectionFor glob)) executableMode)
    (FileTree.ne_top_of_look_ne reaches.notDirectory)
  have installed := install_of_update_some accepted
    (Change.makeDirectories_of_isMade still.made) still (existing_of_look still there (by simp))
    (update_forced_withSection own glob next.toList oneLine unmarked trimmed)
  rwa [FileTree.put_put] at installed

def hookPlace : Location := .of [Text.bytesOf "pre-commit", Text.bytesOf "hooks"]

def hooksTree : FileTree where
  entryAt place := if place = .of [Text.bytesOf "hooks"] then some .directory else none
  standing := .owner

theorem reaches_hooksTree : Reaches hooksTree .top (.ofText "hooks") hookPlace where
  made := ⟨by decide, by decide, fun _ => by decide⟩
  found := by decide
  notDirectory := by decide

/-- A hook with an end marker in front, a marker within a line, and a section without an end. -/
def strayHook : List Char :=
  ("#!/bin/sh\n# <<< spotless-staged <<<\nmake lint # >>> spotless-staged >>>\n"
    ++ "\t# >>> spotless-staged >>>\nmake test\n").toList

def strayTree : FileTree :=
  hooksTree.put hookPlace (.file (Text.encode strayHook) plainMode)

/-- Forcing two installations, one after the other, is forcing the second.  The hook may be
anything that has no carriage returns, or not be there.  Forcing an installation again changes
nothing. -/
theorem install_forced_last_wins (hook : Option (List Char)) (first second : String)
    (making : (Change.makeDirectories workdir directory).run tree = .ok () made)
    (found : made.find workdir (file directory) = .ok place)
    (reading : existing made workdir (file directory) = .ok hook)
    (noReturn : ∀ text ∈ hook, '\r' ∉ text)
    (accepted : acceptsGlob first.toList = true) (oneLine : '\n' ∉ first.toList)
    (acceptedSecond : acceptsGlob second.toList = true) :
    ∃ answer own once twice,
      (install workdir directory first true).run tree = .ok answer once ∧
      once.read workdir (file directory) =
        .ok (Text.encode (own ++ '\n' :: '\n' :: sectionFor first.toList)) ∧
      (install workdir directory second true).run once = .ok .replaced twice ∧
      twice.read workdir (file directory) =
        .ok (Text.encode (own ++ '\n' :: '\n' :: sectionFor second.toList)) ∧
      (install workdir directory second true).run tree = .ok answer twice ∧
      (install workdir directory first true).run once = .ok .replaced once := by
  have reaches := Reaches.of_existing making found reading
  obtain ⟨answer, own, kept, returnFree, updated⟩ := exists_update_forced hook
  have same : withoutReturns own = own :=
    Text.eq_of_dropsReturn (returnFree noReturn) (Text.dropsReturn_withoutReturns _ kept.trimmed)
  have once : ∀ glob : String, acceptsGlob glob.toList = true →
      (install workdir directory glob true).run tree =
        .ok answer (withHook made place own glob.toList) := fun glob accepted =>
    install_of_update_some accepted making reaches reading (updated glob.toList)
  have again : ∀ glob : String, acceptsGlob glob.toList = true →
      (install workdir directory glob true).run (withHook made place own first.toList) =
        .ok .replaced (withHook made place own glob.toList) := by
    intro glob accepted
    rw [install_forced_withHook reaches _ _ glob oneLine kept.unmarked kept.trimmed accepted, same]
  exact ⟨answer, own, _, _, once first accepted, read_withHook reaches _ _,
    again second acceptedSecond, read_withHook reaches _ _, once second acceptedSecond,
    again first accepted⟩

theorem install_forced_last_wins_stray :
    (Change.makeDirectories .top (.ofText "hooks")).run strayTree = .ok () strayTree ∧
      existing strayTree .top (file (.ofText "hooks")) = .ok (some strayHook) ∧
      '\r' ∉ strayHook ∧
      ∃ answer own once twice,
        (install .top (.ofText "hooks") "*.java" true).run strayTree = .ok answer once ∧
        once.read .top (file (.ofText "hooks")) =
          .ok (Text.encode (own ++ '\n' :: '\n' :: sectionFor "*.java".toList)) ∧
        (install .top (.ofText "hooks") "*.kt\n*.scala" true).run once = .ok .replaced twice ∧
        twice.read .top (file (.ofText "hooks")) =
          .ok (Text.encode (own ++ '\n' :: '\n' :: sectionFor "*.kt\n*.scala".toList)) ∧
        (install .top (.ofText "hooks") "*.kt\n*.scala" true).run strayTree = .ok answer twice ∧
        (install .top (.ofText "hooks") "*.java" true).run once = .ok .replaced once := by
  have reaches := reaches_hooksTree.put (Text.encode strayHook) plainMode
  have making := Change.makeDirectories_of_isMade reaches.made
  have there := FileTree.look_put_self hooksTree hookPlace
    (.file (Text.encode strayHook) plainMode) (by decide)
  have reading := existing_of_look reaches there (by simp)
  have noReturn : '\r' ∉ strayHook := by decide
  exact ⟨making, reading, noReturn, install_forced_last_wins (some strayHook) "*.java"
    "*.kt\n*.scala" making reaches.found reading (by simpa using noReturn) (by decide)
    (by decide) (by decide)⟩

/-- A forced installation keeps the text that does not name this program in front of the section
but for its line ends, which become line feeds. -/
theorem install_forced_over_section (text : List Char) (glob next : String)
    (making : (Change.makeDirectories workdir directory).run tree = .ok () made)
    (found : made.find workdir (file directory) = .ok place)
    (reading : existing made workdir (file directory) = .ok (some (withSection text glob.toList)))
    (foreign : ¬ toolName <:+: text) (oneLine : '\n' ∉ glob.toList)
    (accepted : acceptsGlob next.toList = true) :
    ∃ after content,
      (install workdir directory next true).run tree = .ok .replaced after ∧
      after.read workdir (file directory) = .ok (Text.encode content) ∧
      content = withLineFeeds (Text.trimEnd text) ++ '\n' :: '\n' :: sectionFor next.toList ∧
      (content = withSection text next.toList ↔ ¬ ['\r', '\n'] <:+: Text.trimEnd text) := by
  have reaches := Reaches.of_existing making found reading
  have updated := update_forced_withSection (Text.trimEnd text) glob.toList next.toList oneLine
    (unmarked_of_foreign text foreign) (Text.trimEnd_trimEnd text)
  rw [Text.withoutReturns_of_trimmed _ (Text.trimEnd_trimEnd text)] at updated
  refine ⟨withHook made place (withLineFeeds (Text.trimEnd text)) next.toList, _,
    install_of_update_some accepted making reaches reading updated,
    read_withHook reaches _ _, rfl, ?_⟩
  rw [withSection, List.append_cancel_right_eq, Text.withLineFeeds_eq_self_iff]

/-- A hook with a carriage return inside a line, and blank lines. -/
def bareReturnHook : List Char := "#!/bin/sh\n\nprintf 'a\rb'\r\n \n".toList

theorem install_forced_over_section_bareReturn :
    let tree := withHook hooksTree hookPlace (Text.trimEnd bareReturnHook) "*.java".toList
    existing tree .top (file (.ofText "hooks")) =
        .ok (some (withSection bareReturnHook "*.java".toList)) ∧
      ¬ toolName <:+: bareReturnHook ∧
      ∃ after, (install .top (.ofText "hooks") "*.kt" true).run tree = .ok .replaced after ∧
        after.read .top (file (.ofText "hooks")) =
          .ok (Text.encode (withSection bareReturnHook "*.kt".toList)) := by
  have reaches := reaches_hooksTree.put
    (Text.encode (withSection bareReturnHook "*.java".toList)) executableMode
  have making := Change.makeDirectories_of_isMade reaches.made
  have there := FileTree.look_put_self hooksTree hookPlace
    (.file (Text.encode (withSection bareReturnHook "*.java".toList)) executableMode)
    (by decide)
  have reading := existing_of_look reaches there (by simp)
  have foreign : ¬ toolName <:+: bareReturnHook := by
    rw [← mentions_iff]
    decide
  have plain : ¬ ['\r', '\n'] <:+: Text.trimEnd bareReturnHook := by
    rw [← mentions_iff]
    decide
  obtain ⟨after, content, installed, read, -, same⟩ := install_forced_over_section bareReturnHook
    "*.java" "*.kt" making reaches.found reading foreign (by decide) (by decide)
  exact ⟨reading, foreign, after, installed, (same.mpr plain) ▸ read⟩

/-- A hook whose lines end with carriage returns loses them. -/
theorem install_forced_drops_returns :
    let tree := withHook hooksTree hookPlace (Text.trimEnd lintHook) "*.java".toList
    Text.trimEnd lintHook = "#!/bin/sh\r\nmake lint".toList ∧ ¬ toolName <:+: lintHook ∧
      ∃ after, (install .top (.ofText "hooks") "*.kt" true).run tree = .ok .replaced after ∧
        after.read .top (file (.ofText "hooks")) = .ok (Text.encode
          ("#!/bin/sh\nmake lint".toList ++ '\n' :: '\n' :: sectionFor "*.kt".toList)) ∧
        "#!/bin/sh\nmake lint".toList ++ '\n' :: '\n' :: sectionFor "*.kt".toList ≠
          withSection lintHook "*.kt".toList := by
  have own : Text.trimEnd lintHook = "#!/bin/sh\r\nmake lint".toList := by decide
  have foreign : ¬ toolName <:+: lintHook := by
    rw [← mentions_iff]
    decide
  have written : withoutReturns (Text.trimEnd lintHook) = "#!/bin/sh\nmake lint".toList := by
    decide
  have installed := install_forced_withHook reaches_hooksTree (Text.trimEnd lintHook)
    "*.java".toList "*.kt" (by decide) (unmarked_of_foreign lintHook foreign)
    (Text.trimEnd_trimEnd lintHook) (by decide)
  rw [written] at installed
  refine ⟨own, foreign, _, installed, read_withHook reaches_hooksTree _ _, ?_⟩
  rw [withSection, own, ne_eq, List.append_cancel_right_eq]
  decide

end StagedFormat.Hook
