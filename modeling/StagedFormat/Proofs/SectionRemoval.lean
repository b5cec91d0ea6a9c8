import Mathlib.Data.List.Chain
import StagedFormat.Proofs.HookSection

/-!
# Taking a section out again

A glob may have line feeds, and then its own lines stand in the section.  One of them can be an end
marker, and what follows it is taken for lines of the hook.  `removeSection_undoes` says what is
left of a section for any glob, and for which globs nothing is.
-/

set_option autoImplicit false

namespace StagedFormat.Hook

open Text (withoutReturn withoutReturns)

/-! ## Lines outside of sections -/

theorem mem_linesOutside (inside : Bool) (lines : List (List Char)) (line : List Char)
    (member : line ∈ linesOutside inside lines) :
    line ∈ lines ∧ isBegin line = false ∧ isEnd line = false := by
  induction lines generalizing inside with
  | nil => cases member
  | cons first rest ih =>
    have later : line ∈ linesOutside (insideAfter inside first) rest →
        line ∈ first :: rest ∧ isBegin line = false ∧ isEnd line = false := fun found =>
      ⟨List.mem_cons_of_mem first (ih _ found).1, (ih _ found).2⟩
    rw [linesOutside_cons] at member
    split at member
    · rename_i outside
      rcases List.mem_cons.mp member with rfl | others
      · exact ⟨List.mem_cons_self, (not_isMarker_iff line).mp outside.1⟩
      · exact later others
    · exact later member

theorem eq_or_exists_of_mem_unlines (lines : List (List Char)) (c : Char)
    (member : c ∈ unlines lines) : c = '\n' ∨ ∃ line ∈ lines, c ∈ line := by
  by_cases blank : lines = [[]]
  · rw [blank] at member
    cases member
  · rw [unlines_eq_flatMap lines blank] at member
    obtain ⟨line, found, inside⟩ := List.mem_flatMap.mp member
    rcases List.mem_append.mp inside with own | feed
    · exact .inr ⟨line, found, own⟩
    · exact .inl (List.mem_singleton.mp feed)

theorem noReturn_removeSection (text : List Char) (noReturn : '\r' ∉ text) :
    '\r' ∉ removeSection text := by
  intro inside
  rcases eq_or_exists_of_mem_unlines _ _ inside with feed | ⟨line, outside, own⟩
  · exact absurd feed (by decide)
  · exact noReturn ((Text.infix_of_mem_lines text line
      (mem_linesOutside false _ line outside).1).mem own)

theorem unmarked_unlines (lines : List (List Char))
    (plain : ∀ line ∈ lines, '\n' ∉ line ∧ isBegin line = false ∧ isEnd line = false) :
    Unmarked (unlines lines) := by
  have blank : isBegin [] = false ∧ isEnd [] = false := by decide
  intro line member
  by_cases alone : lines = [[]]
  · obtain rfl : line = [] := by simpa [alone, unlines] using member
    exact blank
  · rw [splitOn_unlines lines (fun line found => (plain line found).1) alone] at member
    rcases List.mem_append.mp member with own | final
    · exact (plain line own).2
    · obtain rfl := List.mem_singleton.mp final
      exact blank

theorem unmarked_removeSection (text : List Char) : Unmarked (removeSection text) := by
  apply unmarked_unlines
  intro line outside
  obtain ⟨found, unmarked⟩ := mem_linesOutside false _ line outside
  exact ⟨Text.not_mem_of_mem_lines text line found, unmarked⟩

/-! ## Lines that are left over -/

/-- Every end marker is directly followed by another marker, or closes the lines. -/
def EndsClosed (lines : List (List Char)) : Prop :=
  lines.IsChain fun line next => isEnd line = true → isBegin next = true ∨ isEnd next = true

/-- In the section for the glob no line stands directly behind an end marker, but for markers. -/
def Closes (glob : List Char) : Prop :=
  EndsClosed (Text.lines (sectionFor glob))

instance (lines : List (List Char)) : Decidable (EndsClosed lines) :=
  inferInstanceAs (Decidable (List.IsChain _ _))

instance (glob : List Char) : Decidable (Closes glob) :=
  inferInstanceAs (Decidable (EndsClosed _))

theorem isEnd_eq_false_of_isBegin (line : List Char) (begins : isBegin line = true) :
    isEnd line = false := by
  have marker : Text.trim line = beginMarker := by simpa [isBegin] using begins
  rw [isEnd, marker]
  decide

theorem linesOutside_eq_nil_iff (inside : Bool) (lines : List (List Char)) :
    linesOutside inside lines = [] ↔
      EndsClosed lines ∧
        (inside = false → ∀ line ∈ lines.head?, isBegin line = true ∨ isEnd line = true) := by
  unfold EndsClosed
  -- A line that is no marker is outside exactly if an end marker, or nothing, stands before it.
  induction lines generalizing inside with
  | nil => simp [linesOutside]
  | cons line rest ih =>
    rw [linesOutside, List.isChain_cons]
    by_cases begins : isBegin line = true
    · rw [if_pos begins, ih true]
      simp [begins, isEnd_eq_false_of_isBegin line begins]
    · by_cases ends : isEnd line = true
      · rw [if_neg begins, if_pos ends, ih false]
        simp [ends, and_comm]
      · rw [if_neg begins, if_neg ends]
        cases inside with
        | true =>
          rw [if_pos rfl, ih true]
          simp [ends]
        | false => simp [begins, ends]

theorem strayLines_eq_nil_iff (glob : List Char) : strayLines glob = [] ↔ Closes glob := by
  have opens : isBegin beginMarker = true := by decide
  have first : (Text.lines (sectionFor glob)).head? = some beginMarker := by
    rw [lines_sectionFor]
    rfl
  rw [strayLines, linesOutside_eq_nil_iff, Closes, first]
  simp [opens]

/-! ## Globs that close their section -/

theorem endsClosed_append_singleton (lines : List (List Char)) (last : List Char)
    (plain : ∀ line ∈ lines, isEnd line = false) : EndsClosed (lines ++ [last]) := by
  unfold EndsClosed
  induction lines with
  | nil => exact List.isChain_singleton last
  | cons line rest ih =>
    rw [List.cons_append, List.isChain_cons]
    refine ⟨?_, ih fun other member => plain other (List.mem_cons_of_mem line member)⟩
    intro next _ ends
    rw [plain line List.mem_cons_self] at ends
    exact absurd ends Bool.false_ne_true

theorem isEnd_append_loopEnd (front : List Char) : isEnd (front ++ loopEnd) = false := by
  have shape : loopEnd = loopEnd.dropLast ++ ['o'] := by decide
  have last := Text.getLast?_trim (front ++ loopEnd.dropLast) 'o' (by decide)
  rw [List.append_assoc, ← shape] at last
  rw [isEnd, beq_eq_false_iff_ne]
  intro marker
  rw [marker] at last
  exact absurd last (by decide)

theorem isEnd_of_mem_loopLines (glob line : List Char)
    (plain : ∀ line ∈ glob.splitOn '\n', isEnd line = false) (member : line ∈ loopLines glob) :
    isEnd line = false := by
  obtain ⟨piece, found, rfl⟩ := List.mem_map.mp member
  have same : isEnd (withoutReturn piece) = isEnd piece := by
    rw [isEnd, Text.trim_withoutReturn, isEnd]
  rw [same]
  rcases Text.mem_splitOn_between loopStart glob loopEnd piece (by decide)
    (by decide) found with ⟨rest, rfl⟩ | ⟨front, rfl⟩ | own
  · exact (unmarked_of_loopStart rest).2
  · exact isEnd_append_loopEnd front
  · exact plain piece own

theorem closes_of_no_end (glob : List Char)
    (plain : ∀ line ∈ glob.splitOn '\n', isEnd line = false) : Closes glob := by
  have before : ∀ line ∈ beginMarker :: linesBefore ++ linesAfter, isEnd line = false := by
    decide
  rw [Closes, lines_sectionFor, ← List.append_assoc, ← List.append_assoc]
  apply endsClosed_append_singleton
  intro line member
  rcases List.mem_append.mp member with inner | after
  · rcases List.mem_append.mp inner with first | loop
    · exact before line (List.mem_append_left _ first)
    · exact isEnd_of_mem_loopLines glob line plain loop
  · exact before line (List.mem_append_right _ after)

/-! ## Taking out what was written -/

/-- The last line of a trimmed text may have lost blanks, and no marker is made by that. -/
theorem Unmarked.trimEnd {text : List Char} (unmarked : Unmarked text) :
    Unmarked (Text.trimEnd text) := by
  obtain ⟨tail, whole, blank⟩ := Text.exists_blank_append text
  obtain ⟨front, last, cut⟩ := Text.exists_last_piece (Text.trimEnd text)
  obtain ⟨first, back, inside⟩ := List.exists_cons_of_ne_nil (List.splitOn_ne_nil '\n' tail)
  have pieces := Text.splitOn_append _ tail last first front back cut inside
  rw [← whole] at pieces
  have firstBlank : ∀ c ∈ first, Text.isBlank c = true := fun c member =>
    blank c ((Text.infix_of_mem_splitOn tail first (by simp [inside])).mem member)
  intro line member
  rw [cut] at member
  rcases List.mem_append.mp member with earlier | final
  · exact unmarked line (by simp [pieces, earlier])
  · obtain rfl := List.mem_singleton.mp final
    have plain := unmarked (line ++ first) (by simp [pieces])
    rwa [isBegin, isEnd, Text.trim_append_of_blank line first firstBlank] at plain

theorem noReturn_trimEnd (text : List Char) (noReturn : '\r' ∉ text) :
    '\r' ∉ Text.trimEnd text := fun inside => noReturn ((Text.trimEnd_isInfix text).mem inside)

/-- What taking a section out leaves of it, whatever its glob is.  The hook is left as it was,
followed by one empty line, exactly if the glob closes its section; so it is if no line of the glob
is an end marker. -/
theorem removeSection_undoes (text glob : List Char) (noReturn : '\r' ∉ text)
    (unmarked : Unmarked text) :
    removeSection (withSection text glob) =
        Text.trimEnd text ++ '\n' :: '\n' :: (strayLines glob).flatMap (· ++ ['\n']) ∧
      (Text.lines (removeSection (withSection text glob)) =
          Text.lines (Text.trimEnd text) ++ (if Text.trimEnd text = [] then [[], []] else [[]]) ↔
        Closes glob) ∧
      (Closes glob → removeSection (sectionFor glob) = []) ∧
      ((∀ line ∈ glob.splitOn '\n', isEnd line = false) → Closes glob) := by
  have own := noReturn_trimEnd text noReturn
  have kept : withoutReturns (Text.trimEnd text) = Text.trimEnd text :=
    Text.eq_of_dropsReturn own (Text.dropsReturn_withoutReturns _ (Text.trimEnd_trimEnd text))
  have removed : removeSection (withSection text glob) =
      Text.trimEnd text ++ '\n' :: '\n' :: (strayLines glob).flatMap (· ++ ['\n']) := by
    rw [withSection, removeSection_withSection _ glob unmarked.trimEnd, kept]
  have pieces : (Text.trimEnd text).splitOn '\n' ++ [[]] =
      Text.lines (Text.trimEnd text) ++ (if Text.trimEnd text = [] then [[], []] else [[]]) := by
    rw [Text.splitOn_of_trimmed _ (Text.trimEnd_trimEnd text) own]
    split
    · rename_i none
      rw [none]
      rfl
    · rfl
  refine ⟨removed, ?_, ?_, closes_of_no_end glob⟩
  · rw [← strayLines_eq_nil_iff, ← Text.lines_flatMap_eq_nil_iff (strayLines glob), removed,
      ← pieces, Text.lines_append_blankLine, Text.map_withoutReturn_of_noReturn _ own,
      List.append_cons]
    exact List.append_right_eq_self
  · intro closes
    have none := (strayLines_eq_nil_iff glob).mpr closes
    rw [strayLines] at none
    rw [removeSection, none]
    rfl

/-- A glob with both markers among its lines, the end marker first. -/
def markedGlob : List Char :=
  "*.java\n".toList ++ endMarker ++ "\n\t".toList ++ beginMarker ++ " \n*.kt".toList

theorem removeSection_undoes_markedGlob :
    let text := "#!/bin/sh\necho hi\n\n".toList
    '\r' ∉ text ∧ Unmarked text ∧
      Text.lines (removeSection (withSection text markedGlob)) =
        ["#!/bin/sh", "echo hi", ""].map String.toList ∧
      removeSection (sectionFor markedGlob) = [] := by
  have noReturn : '\r' ∉ "#!/bin/sh\necho hi\n\n".toList := by decide
  have unmarked : Unmarked "#!/bin/sh\necho hi\n\n".toList := by
    unfold Unmarked
    decide
  obtain ⟨-, clean, empty, -⟩ := removeSection_undoes _ markedGlob noReturn unmarked
  have closes : Closes markedGlob := by
    rw [Closes, lines_sectionFor]
    decide +kernel
  exact ⟨noReturn, unmarked, (clean.mpr closes).trans (by decide), empty closes⟩

/-- A glob with an end marker among its lines. -/
def strayGlob : List Char :=
  "*.java\n".toList ++ endMarker ++ ['\n']

theorem strayLines_strayGlob : strayLines strayGlob = loopEnd :: linesAfter := by
  rw [strayLines, lines_sectionFor]
  decide +kernel

/-- The glob is accepted, and the second half of its section stays in the hook. -/
theorem removeSection_leaves_strays :
    acceptsGlob strayGlob = true ∧
      Text.lines (removeSection (withSection "#!/bin/sh\n".toList strayGlob)) =
        ["#!/bin/sh".toList, []] ++ loopEnd :: linesAfter ∧
      Text.lines (removeSection (sectionFor strayGlob)) = loopEnd :: linesAfter := by
  have unmarked : Unmarked "#!/bin/sh".toList := by
    unfold Unmarked
    decide
  have trimmed : Text.trimEnd "#!/bin/sh\n".toList = "#!/bin/sh".toList := by decide
  have removed : removeSection (sectionFor strayGlob) = unlines (loopEnd :: linesAfter) :=
    congrArg unlines strayLines_strayGlob
  refine ⟨by decide, ?_, ?_⟩
  · rw [withSection, trimmed, removeSection_withSection _ _ unmarked, strayLines_strayGlob]
    decide
  · rw [removed]
    decide

end StagedFormat.Hook
