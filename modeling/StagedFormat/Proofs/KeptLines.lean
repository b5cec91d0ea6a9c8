import Mathlib.Data.List.FinRange
import StagedFormat.Proofs.SectionRemoval

/-!
# The lines that are kept

Taking sections out of a text keeps the lines that belong to none, and no others.  The nearest
marker in front of a line says whether the line belongs to a section, so the markers need not come
in pairs.  `linesOutside_eq_map` says which positions are kept, by induction on the lines with the
state in front of them, and `removeSection_keeps_outside` what that means for texts.
-/

set_option autoImplicit false

namespace StagedFormat.Hook

open Text (withoutReturn)

/-! ## Positions -/

def NoMarkerBefore (lines : List (List Char)) (i : Fin lines.length) : Prop :=
  ∀ j < i, ¬ IsMarker lines[j]

/-- The nearest marker in front of a position is an end marker. -/
def BehindEnd (lines : List (List Char)) (i : Fin lines.length) : Prop :=
  ∃ j < i, isEnd lines[j] = true ∧ ∀ k, j < k → k < i → ¬ IsMarker lines[k]

/-- The line at a position belongs to no section, given whether one is open in front of the first
line. -/
def OutsideFrom (inside : Bool) (lines : List (List Char)) (i : Fin lines.length) : Prop :=
  ¬ IsMarker lines[i] ∧ (inside = false ∧ NoMarkerBefore lines i ∨ BehindEnd lines i)

instance (lines : List (List Char)) (i : Fin lines.length) : Decidable (NoMarkerBefore lines i) :=
  inferInstanceAs (Decidable (∀ j < i, _))

instance (lines : List (List Char)) (i : Fin lines.length) : Decidable (BehindEnd lines i) :=
  inferInstanceAs (Decidable (∃ j < i, _))

instance (inside : Bool) (lines : List (List Char)) (i : Fin lines.length) :
    Decidable (OutsideFrom inside lines i) :=
  inferInstanceAs (Decidable (_ ∧ _))

section

variable (line : List Char) (rest : List (List Char)) (i : Fin rest.length)

theorem noMarkerBefore_succ :
    NoMarkerBefore (line :: rest) i.succ ↔ ¬ IsMarker line ∧ NoMarkerBefore rest i := by
  simp [NoMarkerBefore, Fin.forall_fin_succ]

theorem behindEnd_succ :
    BehindEnd (line :: rest) i.succ ↔
      isEnd line = true ∧ NoMarkerBefore rest i ∨ BehindEnd rest i := by
  simp [BehindEnd, NoMarkerBefore, Fin.forall_fin_succ, Fin.exists_fin_succ]

/-- The first line is outside if nothing is open in front of it. -/
theorem outsideFrom_zero (inside : Bool) :
    OutsideFrom inside (line :: rest) (0 : Fin (rest.length + 1)) ↔
      ¬ IsMarker line ∧ inside = false := by
  simp [OutsideFrom, NoMarkerBefore, BehindEnd]

/-! ## From one line to the next -/

/-- What is in front of the other lines counts only by the state it leaves. -/
theorem outsideFrom_succ (inside : Bool) :
    OutsideFrom inside (line :: rest) i.succ ↔ OutsideFrom (insideAfter inside line) rest i := by
  have same : (line :: rest)[i.succ] = rest[i] := rfl
  rw [OutsideFrom, OutsideFrom, noMarkerBefore_succ, behindEnd_succ, same]
  by_cases begins : isBegin line = true
  · have marker : IsMarker line := .inl begins
    simp [insideAfter, marker, begins, isEnd_eq_false_of_isBegin line begins]
  · by_cases ends : isEnd line = true
    · have marker : IsMarker line := .inr ends
      simp [insideAfter, marker, begins, ends]
    · have plain : ¬ IsMarker line := by simp [IsMarker, begins, ends]
      simp [insideAfter, plain, begins, ends]

end

def outsidePositions (inside : Bool) (lines : List (List Char)) : List (Fin lines.length) :=
  (List.finRange lines.length).filter (OutsideFrom inside lines ·)

theorem outsidePositions_cons (inside : Bool) (line : List Char) (rest : List (List Char)) :
    outsidePositions inside (line :: rest) =
      if ¬ IsMarker line ∧ inside = false then
        (0 : Fin (rest.length + 1)) ::
          (outsidePositions (insideAfter inside line) rest).map Fin.succ
      else (outsidePositions (insideAfter inside line) rest).map Fin.succ := by
  have positions : List.finRange (line :: rest).length =
      0 :: (List.finRange rest.length).map Fin.succ := List.finRange_succ
  rw [outsidePositions, positions, List.filter_cons, List.filter_map]
  simp [outsideFrom_zero, outsideFrom_succ, outsidePositions, Function.comp_def]

/-- The lines outside of sections are those at the positions outside, in their order. -/
theorem linesOutside_eq_map (inside : Bool) (lines : List (List Char)) :
    linesOutside inside lines = (outsidePositions inside lines).map lines.get := by
  induction lines generalizing inside with
  | nil => rfl
  | cons line rest ih =>
    have later : ((outsidePositions (insideAfter inside line) rest).map Fin.succ).map
        (line :: rest).get = linesOutside (insideAfter inside line) rest := by
      rw [List.map_map, ih]
      rfl
    rw [linesOutside_cons, outsidePositions_cons]
    split
    · rw [List.map_cons, later]
      rfl
    · exact later.symm

/-! ## Lines as a text -/

theorem dropLast_unlines (lines : List (List Char)) :
    (unlines lines).dropLast = ['\n'].intercalate lines := by
  rw [unlines_eq_joined]
  split
  · rename_i empty
    rw [empty]
    rfl
  · exact List.dropLast_concat

theorem lines_unlines (lines : List (List Char)) (noFeed : ∀ line ∈ lines, '\n' ∉ line) :
    Text.lines (unlines lines) = if lines = [[]] then [] else lines.map withoutReturn := by
  split
  · rename_i blank
    rw [blank]
    rfl
  · rename_i notBlank
    rw [unlines_eq_flatMap lines notBlank, Text.lines_flatMap_lineFeed lines noFeed]

theorem linesOutside_of_unmarked (lines : List (List Char))
    (plain : ∀ line ∈ lines, ¬ IsMarker line) : linesOutside false lines = lines := by
  have kept := linesOutside_false_append lines [] fun line member =>
    (not_isMarker_iff line).mp (plain line member)
  rwa [List.append_nil, linesOutside, List.append_nil] at kept

theorem isMarker_withoutReturn (line : List Char) :
    IsMarker (withoutReturn line) ↔ IsMarker line := by
  rw [IsMarker, isBegin, isEnd, Text.trim_withoutReturn, IsMarker, isBegin, isEnd]

/-- Taking sections out of lines without markers takes a carriage return from each of them. -/
theorem removeSection_unlines (lines : List (List Char)) (noFeed : ∀ line ∈ lines, '\n' ∉ line)
    (plain : ∀ line ∈ lines, ¬ IsMarker line) :
    removeSection (unlines lines) = unlines (lines.map withoutReturn) := by
  have unmarked : ∀ line ∈ lines.map withoutReturn, ¬ IsMarker line := by
    intro line member
    obtain ⟨original, found, rfl⟩ := List.mem_map.mp member
    rw [isMarker_withoutReturn]
    exact plain original found
  rw [removeSection, lines_unlines lines noFeed]
  split
  · rename_i blank
    rw [blank]
    rfl
  · rw [linesOutside_of_unmarked _ unmarked]

/-- Only no lines and one blank line have the same text. -/
theorem eq_of_unlines_eq (left right : List (List Char)) (noFeed : ∀ line ∈ left, '\n' ∉ line)
    (noFeedRight : ∀ line ∈ right, '\n' ∉ line) (some : left ≠ []) (someRight : right ≠ [])
    (same : unlines left = unlines right) : left = right := by
  have joined : ['\n'].intercalate left = ['\n'].intercalate right := by
    rw [← dropLast_unlines, same, dropLast_unlines]
  rw [← List.splitOn_intercalate '\n' noFeed some, joined,
    List.splitOn_intercalate '\n' noFeedRight someRight]

/-! ## Texts without their sections -/

section

variable (text : List Char)

theorem noFeed_outside : ∀ line ∈ linesOutside false (Text.lines text), '\n' ∉ line := by
  intro line member
  exact Text.not_mem_of_mem_lines text line (mem_linesOutside false _ line member).1

theorem unmarked_outside : ∀ line ∈ linesOutside false (Text.lines text), ¬ IsMarker line := by
  intro line member
  exact (not_isMarker_iff line).mpr (mem_linesOutside false _ line member).2

theorem unmarked_lines_removeSection :
    ∀ line ∈ Text.lines (removeSection text), ¬ IsMarker line := by
  intro line member
  rw [removeSection, lines_unlines _ (noFeed_outside text)] at member
  split at member
  · cases member
  · obtain ⟨original, found, rfl⟩ := List.mem_map.mp member
    rw [isMarker_withoutReturn]
    exact unmarked_outside text original found

theorem removeSection_of_unmarked (plain : ∀ line ∈ Text.lines text, ¬ IsMarker line) :
    removeSection text = unlines (Text.lines text) := by
  rw [removeSection, linesOutside_of_unmarked _ plain]

/-- Taking sections out again changes nothing exactly if no line that was kept ends with a carriage
return. -/
theorem removeSection_removeSection_eq_iff :
    removeSection (removeSection text) = removeSection text ↔
      ∀ line ∈ linesOutside false (Text.lines text), withoutReturn line = line := by
  have noFeed := noFeed_outside text
  have noFeedCut : ∀ line ∈ (linesOutside false (Text.lines text)).map withoutReturn,
      '\n' ∉ line := by
    intro line member
    obtain ⟨original, found, rfl⟩ := List.mem_map.mp member
    exact fun feed => noFeed original found ((Text.withoutReturn_isPrefix original).mem feed)
  have again : removeSection (removeSection text) =
      unlines ((linesOutside false (Text.lines text)).map withoutReturn) :=
    removeSection_unlines _ noFeed (unmarked_outside text)
  rw [again, removeSection]
  constructor
  · intro same
    -- No lines and one blank line have the same text, but the number of lines stays the same.
    by_cases none : linesOutside false (Text.lines text) = []
    · simp [none]
    · have kept := eq_of_unlines_eq _ _ noFeedCut noFeed (by simpa using none) none same
      exact List.map_inj_left.mp (kept.trans (List.map_id _).symm)
  · intro kept
    rw [List.map_congr_left kept, List.map_id']

theorem removeSection_removeSection_of_noReturn (noReturn : '\r' ∉ text) :
    removeSection (removeSection text) = removeSection text := by
  rw [removeSection_removeSection_eq_iff]
  intro line member
  have inside := Text.infix_of_mem_lines text line (mem_linesOutside false _ line member).1
  apply Text.withoutReturn_of_getLast?_ne
  exact fun ends => noReturn (inside.mem (List.mem_of_getLast? ends))

end

/-- Exactly the lines outside of sections are kept, in their order: those that are no markers and
have no marker in front of them, or an end marker as the nearest one.  So no marker is left, a text
without markers loses at most a blank line that stands alone, and taking sections out twice is
taking them out once if there are no carriage returns. -/
theorem removeSection_keeps_outside (text : List Char) :
    let lines := Text.lines text
    (∃ kept : List (Fin lines.length), kept.Pairwise (· < ·) ∧
      (∀ i, i ∈ kept ↔ ¬ IsMarker lines[i] ∧ (NoMarkerBefore lines i ∨ BehindEnd lines i)) ∧
      let joined := ['\n'].intercalate (kept.map lines.get)
      removeSection text = if joined = [] then [] else joined ++ ['\n']) ∧
    (∀ line ∈ Text.lines (removeSection text), ¬ IsMarker line) ∧
    ((∀ line ∈ lines, ¬ IsMarker line) →
      if lines = [[]] then removeSection text = []
      else (removeSection text).splitOn '\n' = lines ++ [[]] ∧
        Text.lines (removeSection text) = lines.map withoutReturn) ∧
    ('\r' ∉ text → removeSection (removeSection text) = removeSection text) := by
  intro lines
  have noFeed : ∀ line ∈ lines, '\n' ∉ line := Text.not_mem_of_mem_lines text
  refine ⟨⟨outsidePositions false lines, ?_, ?_, ?_⟩, unmarked_lines_removeSection text, ?_,
    removeSection_removeSection_of_noReturn text⟩
  · exact (List.pairwise_lt_finRange lines.length).filter _
  · intro i
    simp [outsidePositions, OutsideFrom]
  · intro joined
    rw [removeSection, linesOutside_eq_map, unlines_eq_joined]
  · intro plain
    rw [removeSection_of_unmarked text plain]
    split
    · rename_i blank
      exact congrArg unlines blank
    · rename_i notBlank
      exact ⟨splitOn_unlines lines noFeed notBlank,
        (lines_unlines lines noFeed).trans (if_neg notBlank)⟩

/-- A hook with an end marker in front, a section within a section, and a section without an
end. -/
def tangledHook : List Char :=
  ['\n'].intercalate [endMarker, "#!/bin/sh".toList, beginMarker, "old".toList, '\t' :: beginMarker,
    endMarker, "make lint".toList, beginMarker, "new".toList]

/-- A hook without markers, with a blank line and with carriage returns. -/
def plainHook : List Char := "make lint\r\n\nexit 0\r".toList

theorem removeSection_keeps_outside_tangled :
    (∃ kept : List (Fin (Text.lines tangledHook).length), kept.Pairwise (· < ·) ∧
      ∀ i, i ∈ kept ↔ i.val = 1 ∨ i.val = 6) ∧
    '\r' ∉ tangledHook ∧
    removeSection (removeSection tangledHook) = "#!/bin/sh\nmake lint\n".toList ∧
    (∀ line ∈ Text.lines plainHook, ¬ IsMarker line) ∧
    (removeSection plainHook).splitOn '\n' =
      ["make lint", "", "exit 0\r", ""].map String.toList := by
  have noReturn : '\r' ∉ tangledHook := by decide +kernel
  have removed : removeSection tangledHook = "#!/bin/sh\nmake lint\n".toList := by
    decide +kernel
  have plain : ∀ line ∈ Text.lines plainHook, ¬ IsMarker line := by decide
  have notBlank : Text.lines plainHook ≠ [[]] := by decide
  obtain ⟨⟨kept, ordered, positions, -⟩, -, -, again⟩ := removeSection_keeps_outside tangledHook
  obtain ⟨-, -, whole, -⟩ := removeSection_keeps_outside plainHook
  have ended := whole plain
  rw [if_neg notBlank] at ended
  refine ⟨⟨kept, ordered, fun i => ?_⟩, noReturn, (again noReturn).trans removed, plain,
    ended.1.trans (by decide)⟩
  rw [positions]
  revert i
  decide +kernel

end StagedFormat.Hook
