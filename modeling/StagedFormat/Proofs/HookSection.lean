import StagedFormat.Hook.Install
import StagedFormat.Proofs.Lines

/-!
# The section of a hook, line by line

A section begins with one marker, ends with the other and has neither in between, whatever its
glob is.  So taking sections out of a hook takes out exactly what was written behind its own
lines, and these come back with at most some carriage returns missing.
-/

set_option autoImplicit false

namespace StagedFormat.Hook

open Text (bareLine withoutReturn withoutReturns DropsReturn)

theorem mentions_iff (word text : List Char) :
    mentions word text = true ↔ word <:+: text := by
  induction text with
  | nil => simp [mentions]
  | cons c rest ih => simp [mentions, List.infix_cons_iff, ih]

/-! ## The lines of a section -/

def linesBefore : List (List Char) :=
  ["(", "    set -f", "    IFS='", "'", "    set --"].map String.toList

def loopStart : List Char :=
  "    for file in $(git -c core.quotePath=false".toList
    ++ " diff --cached --name-only --diff-filter=ACMR -- '".toList

def loopEnd : List Char := "'); do".toList

def linesAfter : List (List Char) :=
  ["        set -- \"$@\" \"$file\"", "    done", "    if [ $# -gt 0 ]; then",
    "        exec spotless-staged -- \"$@\"", "    fi", ") || exit $?"].map String.toList

def bodyLines (glob : List Char) : List (List Char) :=
  linesBefore ++ (loopStart ++ glob ++ loopEnd) :: linesAfter

def sectionLines (glob : List Char) : List (List Char) :=
  beginMarker :: bodyLines glob ++ [endMarker]

/-- The lines of the command that lists the files: more than one if the glob has line feeds. -/
def loopLines (glob : List Char) : List (List Char) :=
  ((loopStart ++ glob ++ loopEnd).splitOn '\n').map withoutReturn

theorem beforeGlob_eq :
    beforeGlob = ['\n'].intercalate (beginMarker :: linesBefore) ++ '\n' :: loopStart := by
  unfold beforeGlob
  rw [String.toList_append]
  decide +kernel

theorem afterGlob_eq :
    afterGlob = loopEnd ++ '\n' :: ['\n'].intercalate (linesAfter ++ [endMarker, []]) := by
  unfold afterGlob
  rw [String.toList_append]
  decide +kernel

/-- Whatever the glob is, the lines around those of the command stay the same. -/
theorem lines_sectionFor (glob : List Char) :
    Text.lines (sectionFor glob) =
      beginMarker :: linesBefore ++ (loopLines glob ++ (linesAfter ++ [endMarker])) := by
  have front : ((['\n'].intercalate (beginMarker :: linesBefore)).splitOn '\n').map withoutReturn =
      beginMarker :: linesBefore := by
    decide
  have back : Text.lines (['\n'].intercalate (linesAfter ++ [endMarker, []])) =
      linesAfter ++ [endMarker] := by
    decide
  have whole : sectionFor glob = ['\n'].intercalate (beginMarker :: linesBefore)
      ++ '\n' :: ((loopStart ++ glob ++ loopEnd)
        ++ '\n' :: ['\n'].intercalate (linesAfter ++ [endMarker, []])) := by
    rw [sectionFor, beforeGlob_eq, afterGlob_eq]
    simp only [List.append_assoc, List.cons_append]
  rw [whole, Text.lines_append_lineFeed, Text.lines_append_lineFeed, front, back]
  rfl

/-- A line that is no marker and keeps all its characters when it is read. -/
structure Inert (line : List Char) : Prop where
  notBegin : isBegin line = false
  notEnd : isEnd line = false
  whole : withoutReturn line = line

instance (line : List Char) : Decidable (Inert line) :=
  decidable_of_iff
    (isBegin line = false ∧ isEnd line = false ∧ withoutReturn line = line)
    ⟨fun ⟨notBegin, notEnd, whole⟩ => ⟨notBegin, notEnd, whole⟩,
      fun inert => ⟨inert.notBegin, inert.notEnd, inert.whole⟩⟩

theorem inert_fixedLines : ∀ line ∈ linesBefore ++ linesAfter, Inert line := by
  decide

theorem unmarked_of_loopStart (rest : List Char) :
    isBegin (loopStart ++ rest) = false ∧ isEnd (loopStart ++ rest) = false := by
  have shape : loopStart = "    ".toList ++ 'f' :: loopStart.drop 5 := by decide
  obtain ⟨tail, trimmed⟩ := Text.exists_trim_eq_cons "    ".toList
    (loopStart.drop 5 ++ rest) 'f' (List.all_eq_true.mp (by decide)) (by decide)
  have whole : loopStart ++ rest = "    ".toList ++ 'f' :: (loopStart.drop 5 ++ rest) := by
    conv_lhs => rw [shape]
    simp only [List.append_assoc, List.cons_append]
  have differs : ∀ marker : List Char, marker.head? = some '#' →
      (Text.trim (loopStart ++ rest) == marker) = false := by
    intro marker first
    rw [whole, trimmed, beq_eq_false_iff_ne]
    rintro rfl
    simp at first
  exact ⟨differs beginMarker (by decide), differs endMarker (by decide)⟩

theorem inert_loop (glob : List Char) : Inert (loopStart ++ glob ++ loopEnd) := by
  have ends : loopEnd.getLast? = some 'o' := by decide
  obtain ⟨notBegin, notEnd⟩ := unmarked_of_loopStart (glob ++ loopEnd)
  rw [← List.append_assoc] at notBegin notEnd
  refine ⟨notBegin, notEnd, ?_⟩
  apply Text.withoutReturn_of_getLast?_ne
  rw [List.getLast?_append, ends]
  simp

theorem inert_bodyLines (glob : List Char) : ∀ line ∈ bodyLines glob, Inert line := by
  intro line member
  rcases List.mem_append.mp member with before | others
  · exact inert_fixedLines line (List.mem_append_left _ before)
  · rcases List.mem_cons.mp others with rfl | after
    · exact inert_loop glob
    · exact inert_fixedLines line (List.mem_append_right _ after)

/-! ## The lines of a hook -/

theorem lines_sectionFor_of_oneLine (glob : List Char) (oneLine : '\n' ∉ glob) :
    Text.lines (sectionFor glob) = sectionLines glob := by
  have start : '\n' ∉ loopStart := by decide
  have ending : '\n' ∉ loopEnd := by decide
  have inside : '\n' ∉ loopStart ++ glob ++ loopEnd := by simp [start, ending, oneLine]
  rw [lines_sectionFor, loopLines, List.splitOn_eq_singleton inside, List.map_singleton,
    (inert_loop glob).whole, sectionLines, bodyLines]
  simp

/-! ## Lines as a text -/

theorem unlines_eq_joined (lines : List (List Char)) :
    unlines lines =
      if ['\n'].intercalate lines = [] then [] else ['\n'].intercalate lines ++ ['\n'] := by
  unfold unlines
  cases ['\n'].intercalate lines with
  | nil => rfl
  | cons c rest => rfl

/-- Each line gets a line feed, unless a blank one stands alone: that one is lost. -/
theorem unlines_eq_flatMap (lines : List (List Char)) (notBlank : lines ≠ [[]]) :
    unlines lines = lines.flatMap (· ++ ['\n']) := by
  by_cases none : lines = []
  · rw [none]
    rfl
  · have some : ['\n'].intercalate lines ≠ [] := by
      simp [Text.intercalate_eq_nil_iff, none, notBlank]
    rw [unlines_eq_joined, if_neg some, Text.intercalate_append_lineFeed lines none]

theorem splitOn_unlines (lines : List (List Char)) (noFeed : ∀ line ∈ lines, '\n' ∉ line)
    (notBlank : lines ≠ [[]]) : (unlines lines).splitOn '\n' = lines ++ [[]] := by
  rw [unlines_eq_flatMap lines notBlank, Text.splitOn_flatMap_lineFeed lines noFeed]

/-! ## Taking the section out -/

/-- A marker of either kind. -/
def IsMarker (line : List Char) : Prop :=
  isBegin line = true ∨ isEnd line = true

instance (line : List Char) : Decidable (IsMarker line) :=
  inferInstanceAs (Decidable (_ ∨ _))

theorem not_isMarker_iff (line : List Char) :
    ¬ IsMarker line ↔ isBegin line = false ∧ isEnd line = false := by
  simp [IsMarker]

/-- Whether a section is open behind a line. -/
def insideAfter (inside : Bool) (line : List Char) : Bool :=
  if isBegin line then true else if isEnd line then false else inside

/-- The lines outside of sections, one line after the other. -/
theorem linesOutside_cons (inside : Bool) (line : List Char) (rest : List (List Char)) :
    linesOutside inside (line :: rest) =
      if ¬ IsMarker line ∧ inside = false then line :: linesOutside (insideAfter inside line) rest
      else linesOutside (insideAfter inside line) rest := by
  rw [linesOutside]
  by_cases begins : isBegin line = true
  · simp [insideAfter, IsMarker, begins]
  · by_cases ends : isEnd line = true
    · simp [insideAfter, IsMarker, begins, ends]
    · cases inside <;> simp [insideAfter, IsMarker, begins, ends]

/-- A text none of whose lines is a marker. -/
def Unmarked (text : List Char) : Prop :=
  ∀ line ∈ text.splitOn '\n', isBegin line = false ∧ isEnd line = false

theorem linesOutside_true_append (plain rest : List (List Char))
    (inert : ∀ line ∈ plain, isBegin line = false ∧ isEnd line = false) :
    linesOutside true (plain ++ rest) = linesOutside true rest := by
  induction plain with
  | nil => rfl
  | cons line others ih =>
    obtain ⟨notBegin, notEnd⟩ := inert line (by simp)
    rw [List.cons_append, linesOutside, notBegin, notEnd]
    exact ih fun other member => inert other (by simp [member])

theorem linesOutside_false_append (plain rest : List (List Char))
    (inert : ∀ line ∈ plain, isBegin line = false ∧ isEnd line = false) :
    linesOutside false (plain ++ rest) = plain ++ linesOutside false rest := by
  induction plain with
  | nil => rfl
  | cons line others ih =>
    obtain ⟨notBegin, notEnd⟩ := inert line (by simp)
    rw [List.cons_append, linesOutside, notBegin, notEnd,
      ih fun other member => inert other (by simp [member])]
    rfl

theorem linesOutside_sectionLines (glob : List Char) :
    linesOutside false (sectionLines glob) = [] := by
  have opens : isBegin beginMarker = true := by decide
  have closes : isBegin endMarker = false ∧ isEnd endMarker = true := by decide
  have inside := linesOutside_true_append (bodyLines glob) [endMarker] fun line member =>
    ⟨(inert_bodyLines glob line member).notBegin, (inert_bodyLines glob line member).notEnd⟩
  rw [sectionLines, List.cons_append, linesOutside, if_pos opens, inside, linesOutside,
    closes.1, closes.2]
  rfl

theorem unmarked_map_withoutReturn (text : List Char) (unmarked : Unmarked text) :
    ∀ line ∈ (text.splitOn '\n').map withoutReturn, isBegin line = false ∧ isEnd line = false := by
  intro line member
  obtain ⟨original, found, rfl⟩ := List.mem_map.mp member
  have plain := unmarked original found
  rwa [isBegin, isEnd, Text.trim_withoutReturn]

theorem unmarked_withoutReturns (text : List Char) (unmarked : Unmarked text) :
    Unmarked (withoutReturns text) := by
  rw [Unmarked, Text.splitOn_withoutReturns]
  exact unmarked_map_withoutReturn text unmarked

/-- The lines of the section itself that are taken for lines outside of it. -/
def strayLines (glob : List Char) : List (List Char) :=
  linesOutside false (Text.lines (sectionFor glob))

theorem strayLines_of_oneLine (glob : List Char) (oneLine : '\n' ∉ glob) :
    strayLines glob = [] := by
  rw [strayLines, lines_sectionFor_of_oneLine glob oneLine, linesOutside_sectionLines]

theorem linesOutside_withSection (kept glob : List Char) (unmarked : Unmarked kept) :
    linesOutside false (Text.lines (kept ++ '\n' :: '\n' :: sectionFor glob)) =
      (kept.splitOn '\n').map withoutReturn ++ [] :: strayLines glob := by
  have inert : ∀ line ∈ (kept.splitOn '\n').map withoutReturn ++ [[]],
      isBegin line = false ∧ isEnd line = false := by
    intro line member
    rcases List.mem_append.mp member with own | blank
    · exact unmarked_map_withoutReturn kept unmarked line own
    · obtain rfl := List.mem_singleton.mp blank
      decide
  rw [Text.lines_append_blankLine, List.append_cons, linesOutside_false_append _ _ inert,
    strayLines, ← List.append_cons]

theorem removeSection_withSection (kept glob : List Char) (unmarked : Unmarked kept) :
    removeSection (kept ++ '\n' :: '\n' :: sectionFor glob) =
      withoutReturns kept ++ '\n' :: '\n' :: (strayLines glob).flatMap (· ++ ['\n']) := by
  obtain ⟨first, others, shape⟩ := List.exists_cons_of_ne_nil (List.splitOn_ne_nil '\n' kept)
  have notBlank : (kept.splitOn '\n').map withoutReturn ++ [] :: strayLines glob ≠ [[]] := by
    simp [shape]
  have own := Text.intercalate_append_lineFeed ((kept.splitOn '\n').map withoutReturn)
    (by simp [List.splitOn_ne_nil])
  rw [removeSection, linesOutside_withSection kept glob unmarked, unlines_eq_flatMap _ notBlank,
    List.flatMap_append, ← own, withoutReturns]
  simp

/-! ## What a hook with a section shows -/

theorem mentions_withSection (kept glob : List Char) :
    mentions beginMarker (kept ++ '\n' :: '\n' :: sectionFor glob) = true := by
  have begins : beginMarker <+: sectionFor glob := by
    have first : beginMarker <+: beforeGlob := List.prefix_append _ _
    have second : beforeGlob <+: sectionFor glob := by
      rw [sectionFor, List.append_assoc]
      exact List.prefix_append _ _
    exact first.trans second
  have ends : sectionFor glob <:+ kept ++ '\n' :: '\n' :: sectionFor glob :=
    ⟨kept ++ ['\n', '\n'], by simp⟩
  exact (mentions_iff _ _).mpr (begins.isInfix.trans ends.isInfix)

theorem filter_lines_withSection (isMarker : List Char → Bool) (kept glob : List Char)
    (oneLine : '\n' ∉ glob) (unmarked : Unmarked kept)
    (silent : ∀ line, isBegin line = false ∧ isEnd line = false → isMarker line = false) :
    (Text.lines (kept ++ '\n' :: '\n' :: sectionFor glob)).filter isMarker =
      [beginMarker, endMarker].filter isMarker := by
  have own : ((kept.splitOn '\n').map withoutReturn).filter isMarker = [] := by
    rw [List.filter_eq_nil_iff]
    intro line member
    rw [silent line (unmarked_map_withoutReturn kept unmarked line member)]
    exact Bool.false_ne_true
  have blank : isMarker [] = false := silent [] (by decide)
  have body : (bodyLines glob).filter isMarker = [] := by
    rw [List.filter_eq_nil_iff]
    intro line member
    have inert := inert_bodyLines glob line member
    rw [silent line ⟨inert.notBegin, inert.notEnd⟩]
    exact Bool.false_ne_true
  rw [Text.lines_append_blankLine, lines_sectionFor_of_oneLine glob oneLine, sectionLines]
  simp only [List.filter_append, List.filter_cons, own, blank, body, Bool.false_eq_true, if_false]
  by_cases opens : isMarker beginMarker = true
  · simp [opens]
  · simp [opens]

theorem filter_isBegin_lines (kept glob : List Char) (oneLine : '\n' ∉ glob)
    (unmarked : Unmarked kept) :
    (Text.lines (kept ++ '\n' :: '\n' :: sectionFor glob)).filter isBegin = [beginMarker] := by
  rw [filter_lines_withSection isBegin kept glob oneLine unmarked fun line plain => plain.1]
  decide

theorem filter_isEnd_lines (kept glob : List Char) (oneLine : '\n' ∉ glob)
    (unmarked : Unmarked kept) :
    (Text.lines (kept ++ '\n' :: '\n' :: sectionFor glob)).filter isEnd = [endMarker] := by
  rw [filter_lines_withSection isEnd kept glob oneLine unmarked fun line plain => plain.2]
  decide

end StagedFormat.Hook
