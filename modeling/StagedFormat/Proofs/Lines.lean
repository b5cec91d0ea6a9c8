import Mathlib.Data.List.DropRight
import Mathlib.Logic.Relation
import StagedFormat.Text.Blank
import StagedFormat.Text.Pieces

/-!
# Pieces, lines and the returns between them

Pieces are what the library calls a split list, so they can be put together again.  Reading a text
as lines and writing the lines back loses the carriage returns that stood before line feeds, one
for each line, and nothing else.
-/

set_option autoImplicit false

namespace StagedFormat.Text

/-! ## Pieces -/

theorem pieces_eq_splitOnP (isSeparator : Char → Bool) (text : List Char) :
    pieces isSeparator text = text.splitOnP isSeparator := by
  induction text with
  | nil => rfl
  | cons c rest ih =>
    obtain ⟨piece, others, shape⟩ :=
      List.exists_cons_of_ne_nil (List.splitOnP_ne_nil isSeparator rest)
    rw [pieces, List.splitOnP_cons_eq_if_modifyHead, ih, shape]
    rfl

theorem pieces_ne_nil {α : Type} (isSeparator : α → Bool) (text : List α) :
    pieces isSeparator text ≠ [] := by
  cases text with
  | nil => simp [pieces]
  | cons c rest =>
    unfold pieces
    split
    · simp
    · split <;> simp

theorem pieces_append_separator {α : Type} (isSeparator : α → Bool) (left right : List α)
    (separator : α) (separates : isSeparator separator = true) :
    pieces isSeparator (left ++ separator :: right) =
      pieces isSeparator left ++ pieces isSeparator right := by
  induction left with
  | nil => simp [pieces, separates]
  | cons c rest ih =>
    rw [List.cons_append, pieces, pieces, ih]
    by_cases cut : isSeparator c = true
    · simp only [if_pos cut, List.cons_append]
    · obtain ⟨piece, others, shape⟩ := List.exists_cons_of_ne_nil (pieces_ne_nil isSeparator rest)
      simp only [if_neg cut, shape, List.cons_append]

/-- The first piece ends at the first separator. -/
theorem pieces_append_cons {α : Type} (isSeparator : α → Bool) (first rest : List α) (separator : α)
    (plain : ∀ c ∈ first, isSeparator c = false) (separates : isSeparator separator = true) :
    pieces isSeparator (first ++ separator :: rest) = first :: pieces isSeparator rest := by
  induction first with
  | nil => simp [pieces, separates]
  | cons c others ih =>
    have later := ih fun d member => plain d (List.mem_cons_of_mem c member)
    rw [List.cons_append, pieces, plain c List.mem_cons_self, later]
    rfl

theorem pieces_lineFeed (text : List Char) :
    pieces (· == '\n') text = text.splitOn '\n' :=
  pieces_eq_splitOnP _ text

theorem exists_last_piece (text : List Char) :
    ∃ others last, text.splitOn '\n' = others ++ [last] := by
  rcases List.eq_nil_or_concat' (text.splitOn '\n') with none | shape
  · exact absurd none (List.splitOn_ne_nil '\n' text)
  · exact shape

/-- The last piece of one text and the first of the next grow together. -/
theorem splitOn_append (left right last first : List Char) (front back : List (List Char))
    (leftPieces : left.splitOn '\n' = front ++ [last])
    (rightPieces : right.splitOn '\n' = first :: back) :
    (left ++ right).splitOn '\n' = front ++ (last ++ first) :: back := by
  induction left generalizing front last with
  | nil =>
    cases front with
    | nil =>
      obtain rfl : last = [] := by simpa using leftPieces.symm
      simpa using rightPieces
    | cons piece rest => simp at leftPieces
  | cons c rest ih =>
    rw [List.cons_append]
    rw [List.splitOn_cons_eq_if_modifyHead] at leftPieces ⊢
    by_cases feed : c = '\n'
    · simp only [feed, beq_self_eq_true, if_true] at leftPieces ⊢
      cases front with
      | nil =>
        have none : rest.splitOn '\n' = [] := by simpa using (List.cons.inj leftPieces).2
        exact absurd none (List.splitOn_ne_nil '\n' rest)
      | cons piece others =>
        obtain ⟨rfl, restPieces⟩ := List.cons.inj leftPieces
        rw [ih last others restPieces, List.cons_append]
    · have differs : (c == '\n') = false := by simpa using feed
      simp only [differs, Bool.false_eq_true, if_false] at leftPieces ⊢
      obtain ⟨piece, others, shape⟩ :=
        List.exists_cons_of_ne_nil (List.splitOn_ne_nil '\n' rest)
      rw [shape, List.modifyHead_cons] at leftPieces
      cases front with
      | nil =>
        obtain ⟨rfl, rfl⟩ : c :: piece = last ∧ others = [] := by simpa using leftPieces
        rw [ih piece [] shape]
        rfl
      | cons head middle =>
        obtain ⟨rfl, rfl⟩ := List.cons.inj leftPieces
        rw [ih last (piece :: middle) shape]
        rfl

/-- A piece of a text between two texts without line feeds is one of its own pieces, or has a part
of what is around it. -/
theorem mem_splitOn_between (left text right piece : List Char) (noFeed : '\n' ∉ left)
    (noFeedRight : '\n' ∉ right) (member : piece ∈ (left ++ text ++ right).splitOn '\n') :
    left <+: piece ∨ right <:+ piece ∨ piece ∈ text.splitOn '\n' := by
  obtain ⟨first, back, inside⟩ := List.exists_cons_of_ne_nil (List.splitOn_ne_nil '\n' text)
  have fromLeft : (left ++ text).splitOn '\n' = (left ++ first) :: back := by
    simpa using
      splitOn_append left text left first [] back (List.splitOn_eq_singleton noFeed) inside
  obtain ⟨front, last, cut⟩ := exists_last_piece (left ++ text)
  have whole := splitOn_append (left ++ text) right last right front [] cut
    (List.splitOn_eq_singleton noFeedRight)
  rw [whole] at member
  rcases List.mem_append.mp member with earlier | final
  · have early : piece ∈ (left ++ first) :: back := by
      rw [← fromLeft, cut]
      exact List.mem_append_left _ earlier
    rcases List.mem_cons.mp early with rfl | later
    · exact .inl (List.prefix_append left first)
    · exact .inr (.inr (inside ▸ List.mem_cons_of_mem first later))
  · obtain rfl := List.mem_singleton.mp final
    exact .inr (.inl (List.suffix_append last right))

theorem splitOn_append_singleton (text : List Char) (last : Char) (inside : last ≠ '\n') :
    ∃ others piece, (text ++ [last]).splitOn '\n' = others ++ [piece ++ [last]] := by
  obtain ⟨others, piece, shape⟩ := exists_last_piece text
  have single : [last].splitOn '\n' = [[last]] :=
    List.splitOn_eq_singleton (by simpa using Ne.symm inside)
  exact ⟨others, piece, splitOn_append text [last] piece [last] others [] shape single⟩

theorem not_mem_of_mem_splitOn (text piece : List Char) (member : piece ∈ text.splitOn '\n') :
    '\n' ∉ piece := by
  induction text generalizing piece with
  | nil =>
    have empty : piece = [] := by simpa using member
    simp [empty]
  | cons c rest ih =>
    rw [List.splitOn_cons_eq_if_modifyHead] at member
    by_cases feed : c = '\n'
    · rcases List.mem_cons.mp (by simpa [feed] using member) with rfl | later
      · simp
      · exact ih piece later
    · obtain ⟨first, others, shape⟩ :=
        List.exists_cons_of_ne_nil (List.splitOn_ne_nil '\n' rest)
      rw [shape] at member ih
      rcases List.mem_cons.mp (by simpa [feed] using member) with rfl | later
      · have absent := ih first (by simp)
        simp [absent, Ne.symm feed]
      · exact ih piece (by simp [later])

theorem infix_intercalate_of_mem (pieces : List (List Char)) (piece : List Char)
    (member : piece ∈ pieces) : piece <:+: ['\n'].intercalate pieces := by
  induction pieces with
  | nil => cases member
  | cons first rest ih =>
    cases rest with
    | nil =>
      obtain rfl : piece = first := by simpa using member
      rewrite [List.intercalate_singleton]
      exact List.infix_rfl
    | cons second others =>
      rw [List.intercalate_cons_cons]
      rcases List.mem_cons.mp member with rfl | later
      · exact ⟨[], ['\n'] ++ ['\n'].intercalate (second :: others), by simp⟩
      · exact (ih later).trans (List.suffix_append _ _).isInfix

theorem infix_of_mem_splitOn (text piece : List Char) (member : piece ∈ text.splitOn '\n') :
    piece <:+: text := by
  have inside := infix_intercalate_of_mem _ piece member
  rwa [List.intercalate_splitOn] at inside

theorem intercalate_append_singleton (others : List (List Char)) (piece tail : List Char) :
    ['\n'].intercalate (others ++ [piece ++ tail]) =
      ['\n'].intercalate (others ++ [piece]) ++ tail := by
  induction others with
  | nil => simp [List.intercalate_singleton]
  | cons first rest ih =>
    rw [List.cons_append, List.cons_append, List.intercalate_cons_of_ne_nil (by simp),
      List.intercalate_cons_of_ne_nil (by simp), ih, ← List.append_assoc]

theorem intercalate_append_lineFeed (pieces : List (List Char)) (some : pieces ≠ []) :
    ['\n'].intercalate pieces ++ ['\n'] = pieces.flatMap (· ++ ['\n']) := by
  induction pieces with
  | nil => exact absurd rfl some
  | cons first rest ih =>
    cases rest with
    | nil => simp [List.intercalate_singleton]
    | cons second others =>
      rw [List.intercalate_cons_cons, List.append_assoc, ih (by simp)]
      rfl

theorem intercalate_eq_nil_iff (pieces : List (List Char)) :
    ['\n'].intercalate pieces = [] ↔ pieces = [] ∨ pieces = [[]] := by
  match pieces with
  | [] => simp
  | [piece] => simp [List.intercalate_singleton]
  | first :: second :: others => simp [List.intercalate_cons_cons]

/-! ## Lines -/

/-- A line without the carriage returns it ends with. -/
def bareLine (line : List Char) : List Char :=
  line.rdropWhile (· == '\r')

@[simp] theorem withoutReturn_append_return (line : List Char) :
    withoutReturn (line ++ ['\r']) = line := by
  simp [withoutReturn]

theorem withoutReturn_of_getLast?_ne (line : List Char) (other : line.getLast? ≠ some '\r') :
    withoutReturn line = line := by
  simp [withoutReturn, other]

/-- Only the part behind a character that is no carriage return can lose one. -/
theorem withoutReturn_append_cons (front back : List Char) (c : Char) (other : c ≠ '\r') :
    withoutReturn (front ++ c :: back) = front ++ c :: withoutReturn back := by
  rcases List.eq_nil_or_concat' back with rfl | ⟨inner, last, rfl⟩
  · rw [withoutReturn_of_getLast?_ne _ (by simpa using other)]
    rfl
  · have shape : front ++ c :: (inner ++ [last]) = (front ++ c :: inner) ++ [last] := by simp
    rw [shape]
    by_cases ends : last = '\r'
    · rw [ends, withoutReturn_append_return, withoutReturn_append_return]
    · have kept : ∀ text : List Char, withoutReturn (text ++ [last]) = text ++ [last] := by
        intro text
        exact withoutReturn_of_getLast?_ne _ (by simpa using ends)
      rw [kept, kept, ← shape]

theorem withoutReturn_cases (line : List Char) :
    line = withoutReturn line ++ ['\r'] ∨ withoutReturn line = line := by
  by_cases ends : line.getLast? = some '\r'
  · obtain ⟨front, rfl⟩ := List.getLast?_eq_some_iff.mp ends
    exact .inl (by simp)
  · exact .inr (withoutReturn_of_getLast?_ne line ends)

theorem withoutReturn_isPrefix (line : List Char) : withoutReturn line <+: line := by
  rcases withoutReturn_cases line with cut | same
  · exact ⟨['\r'], cut.symm⟩
  · exact ⟨[], by rw [List.append_nil, same]⟩

theorem bareLine_withoutReturn (line : List Char) :
    bareLine (withoutReturn line) = bareLine line := by
  rcases withoutReturn_cases line with cut | same
  · conv_rhs => rw [cut]
    rw [bareLine, bareLine, List.rdropWhile_concat_pos _ _ _ (by rfl)]
  · rw [same]

theorem trim_append_of_blank (text tail : List Char) (blank : ∀ c ∈ tail, isBlank c = true) :
    trim (text ++ tail) = trim text := by
  unfold trim trimStart
  rw [List.dropWhile_append]
  split
  · rename_i allBlank
    have empty : text.dropWhile isBlank = [] := by simpa using allBlank
    rw [empty, List.dropWhile_eq_nil_iff.mpr blank]
  · exact trimEnd_append_of_blank _ tail blank

/-- A text whose first character that is not blank is `c` begins with it once it is trimmed. -/
theorem exists_trim_eq_cons (front rest : List Char) (c : Char)
    (blank : ∀ d ∈ front, isBlank d = true) (solid : isBlank c = false) :
    ∃ tail, trim (front ++ c :: rest) = c :: tail := by
  have start : trimStart (front ++ c :: rest) = c :: rest := by
    rw [trimStart, List.dropWhile_append, List.dropWhile_eq_nil_iff.mpr blank]
    simp [solid]
  rw [trim, start, trimEnd_cons]
  by_cases alone : trimEnd rest = []
  · exact ⟨[], by simp [alone, solid]⟩
  · exact ⟨trimEnd rest, if_neg alone⟩

theorem getLast?_trim (text : List Char) (last : Char) (solid : isBlank last = false) :
    (trim (text ++ [last])).getLast? = some last := by
  have kept : ∃ front, trimStart (text ++ [last]) = front ++ [last] := by
    rw [trimStart, List.dropWhile_append]
    split
    · exact ⟨[], by simp [solid]⟩
    · exact ⟨text.dropWhile isBlank, rfl⟩
  obtain ⟨front, start⟩ := kept
  rw [trim, start, trimEnd_append_singleton front last solid, List.getLast?_concat]

theorem trim_withoutReturn (line : List Char) : trim (withoutReturn line) = trim line := by
  rcases withoutReturn_cases line with cut | same
  · conv_rhs => rw [cut]
    rw [trim_append_of_blank _ _ (by simp [show isBlank '\r' = true from rfl])]
  · rw [same]

theorem linesOfPieces_append (front back : List (List Char)) (some : back ≠ []) :
    linesOfPieces (front ++ back) = front.map withoutReturn ++ linesOfPieces back := by
  induction front with
  | nil => rfl
  | cons piece rest ih =>
    obtain ⟨next, others, shape⟩ :=
      List.exists_cons_of_ne_nil (List.append_ne_nil_of_right_ne_nil rest some)
    rw [List.cons_append, shape, linesOfPieces, ← shape, ih]
    rfl

/-- The text in front of a line feed is read piece by piece, and what is behind it on its own. -/
theorem lines_append_lineFeed (front back : List Char) :
    lines (front ++ '\n' :: back) = (front.splitOn '\n').map withoutReturn ++ lines back := by
  rw [lines, lines, pieces_lineFeed, pieces_lineFeed, List.splitOn_append_cons_self,
    linesOfPieces_append _ _ (List.splitOn_ne_nil '\n' back)]

theorem lines_append_blankLine (front back : List Char) :
    lines (front ++ '\n' :: '\n' :: back) =
      (front.splitOn '\n').map withoutReturn ++ [] :: lines back := by
  have blank := lines_append_lineFeed [] back
  rw [List.nil_append] at blank
  rw [lines_append_lineFeed, blank]
  rfl

theorem exists_piece_of_mem_lines (text line : List Char) (member : line ∈ lines text) :
    ∃ piece ∈ text.splitOn '\n', line <+: piece := by
  obtain ⟨others, last, shape⟩ := exists_last_piece text
  rw [lines, pieces_lineFeed, shape, linesOfPieces_append _ _ (by simp)] at member
  rw [shape]
  rcases List.mem_append.mp member with ended | final
  · obtain ⟨piece, found, rfl⟩ := List.mem_map.mp ended
    exact ⟨piece, List.mem_append_left _ found, withoutReturn_isPrefix piece⟩
  · unfold linesOfPieces at final
    split at final
    · cases final
    · obtain rfl := List.mem_singleton.mp final
      exact ⟨line, by simp, List.prefix_rfl⟩

theorem infix_of_mem_lines (text line : List Char) (member : line ∈ lines text) :
    line <:+: text := by
  obtain ⟨piece, found, start⟩ := exists_piece_of_mem_lines text line member
  exact start.isInfix.trans (infix_of_mem_splitOn text piece found)

theorem not_mem_of_mem_lines (text line : List Char) (member : line ∈ lines text) :
    '\n' ∉ line := by
  obtain ⟨piece, found, start⟩ := exists_piece_of_mem_lines text line member
  exact fun inside => not_mem_of_mem_splitOn text piece found (start.mem inside)

theorem splitOn_flatMap_lineFeed (texts : List (List Char)) (noFeed : ∀ text ∈ texts, '\n' ∉ text) :
    (texts.flatMap (· ++ ['\n'])).splitOn '\n' = texts ++ [[]] := by
  induction texts with
  | nil => simp
  | cons first others ih =>
    rw [List.flatMap_cons, List.append_assoc, List.singleton_append, List.splitOn_append_cons_self,
      List.splitOn_eq_singleton (noFeed first List.mem_cons_self),
      ih fun text member => noFeed text (List.mem_cons_of_mem first member)]
    rfl

theorem lines_flatMap_lineFeed (texts : List (List Char)) (noFeed : ∀ text ∈ texts, '\n' ∉ text) :
    lines (texts.flatMap (· ++ ['\n'])) = texts.map withoutReturn := by
  induction texts with
  | nil => rfl
  | cons first others ih =>
    rw [List.flatMap_cons, List.append_assoc, List.singleton_append, lines_append_lineFeed,
      List.splitOn_eq_singleton (noFeed first List.mem_cons_self),
      ih fun text member => noFeed text (List.mem_cons_of_mem first member)]
    rfl

theorem lines_flatMap_eq_nil_iff (texts : List (List Char)) :
    lines (texts.flatMap (· ++ ['\n'])) = [] ↔ texts = [] := by
  cases texts with
  | nil => exact ⟨fun _ => rfl, fun _ => rfl⟩
  | cons first others =>
    rw [List.flatMap_cons, List.append_assoc, List.singleton_append, lines_append_lineFeed]
    simp [List.splitOn_ne_nil]

/-! ## Trimmed texts -/

theorem trimEnd_trimEnd (text : List Char) : trimEnd (trimEnd text) = trimEnd text := by
  obtain ⟨tail, whole, blank⟩ := exists_blank_append text
  have cut := trimEnd_append_of_blank (trimEnd text) tail blank
  rw [← whole] at cut
  exact cut.symm

theorem eq_nil_or_exists_solid (text : List Char) (trimmed : trimEnd text = text) :
    text = [] ∨ ∃ front last, text = front ++ [last] ∧ isBlank last = false := by
  rcases List.eq_nil_or_concat' text with empty | ⟨front, last, rfl⟩
  · exact .inl empty
  · refine .inr ⟨front, last, rfl, ?_⟩
    by_contra blank
    have cut := trimEnd_append_of_blank front [last] (by simpa using blank)
    rw [trimmed] at cut
    obtain ⟨tail, whole, -⟩ := exists_blank_append front
    have short := congrArg List.length whole
    rw [← cut] at short
    simp at short

theorem trimStart_eq_self_iff (text : List Char) :
    trimStart text = text ↔ ∀ c ∈ text.head?, isBlank c = false := by
  cases text with
  | nil => simp [trimStart]
  | cons c rest =>
    constructor
    · intro same d first
      obtain rfl : c = d := by simpa using first
      by_contra blank
      have shorter := (List.dropWhile_suffix isBlank (l := rest)).length_le
      have length := congrArg List.length same
      rw [trimStart, List.dropWhile_cons_of_pos (by simpa using blank), List.length_cons] at length
      omega
    · intro solid
      have first := solid c rfl
      rw [trimStart, List.dropWhile_cons_of_neg (by simp [first])]

theorem trimEnd_eq_self_iff (text : List Char) :
    trimEnd text = text ↔ ∀ c ∈ text.getLast?, isBlank c = false := by
  constructor
  · intro trimmed c last
    rcases eq_nil_or_exists_solid text trimmed with rfl | ⟨front, solid, rfl, isSolid⟩
    · cases last
    · rw [List.getLast?_concat] at last
      obtain rfl : solid = c := Option.some.inj last
      exact isSolid
  · intro solid
    rcases List.eq_nil_or_concat' text with rfl | ⟨front, last, rfl⟩
    · rfl
    · exact trimEnd_append_singleton front last (solid last List.getLast?_concat)

/-- Trimming leaves a text alone exactly if it neither begins nor ends with a blank. -/
theorem trim_eq_self_iff (text : List Char) :
    trim text = text ↔
      (∀ c ∈ text.head?, isBlank c = false) ∧ ∀ c ∈ text.getLast?, isBlank c = false := by
  rw [← trimStart_eq_self_iff, ← trimEnd_eq_self_iff]
  constructor
  · intro same
    obtain ⟨tail, whole, -⟩ := exists_blank_append (trimStart text)
    have kept : text.length ≤ (trimStart text).length := by
      have length := congrArg List.length same
      rw [trim] at length
      rw [whole, List.length_append]
      omega
    have start : trimStart text = text := (List.dropWhile_suffix isBlank).eq_of_length_le kept
    rw [trim, start] at same
    exact ⟨start, same⟩
  · rintro ⟨start, ending⟩
    rw [trim, start, ending]

theorem trim_of_solid (text : List Char) (solid : ∀ c ∈ text, isBlank c = false) :
    trim text = text := by
  rw [trim_eq_self_iff]
  exact ⟨fun c first => solid c (List.mem_of_head? first),
    fun c last => solid c (List.mem_of_getLast? last)⟩

theorem trimEnd_isInfix (text : List Char) : trimEnd text <:+: text := by
  obtain ⟨tail, whole, -⟩ := exists_blank_append text
  exact ⟨[], tail, whole.symm⟩

theorem trim_isInfix (text : List Char) : trim text <:+: text :=
  (trimEnd_isInfix _).trans (List.dropWhile_suffix _).isInfix

/-! ## Lines written back -/

/-- One carriage return directly before a line feed is taken out. -/
def DropsReturn (before after : List Char) : Prop :=
  ∃ front back, before = front ++ '\r' :: '\n' :: back ∧ after = front ++ '\n' :: back

/-- The text of the pieces between line feeds, each without the carriage return it ends with. -/
def withoutReturns (text : List Char) : List Char :=
  ['\n'].intercalate ((text.splitOn '\n').map withoutReturn)

theorem DropsReturn.append (front before after : List Char) (drops : DropsReturn before after) :
    DropsReturn (front ++ before) (front ++ after) := by
  obtain ⟨left, right, rfl, rfl⟩ := drops
  exact ⟨front ++ left, right, by simp, by simp⟩

theorem dropsReturn_intercalate (others : List (List Char)) (last : List Char) :
    Relation.ReflTransGen DropsReturn (['\n'].intercalate (others ++ [last]))
      (['\n'].intercalate (others.map withoutReturn ++ [last])) := by
  induction others with
  | nil => exact .refl
  | cons first rest ih =>
    rw [List.map_cons, List.cons_append, List.cons_append,
      List.intercalate_cons_of_ne_nil (by simp), List.intercalate_cons_of_ne_nil (by simp)]
    have later := ih.lift (first ++ ['\n'] ++ ·) fun before after drops =>
      drops.append (first ++ ['\n'])
    rcases withoutReturn_cases first with cut | same
    · refine later.tail ⟨withoutReturn first, _, ?_, by simp; rfl⟩
      conv_lhs => rw [cut]
      simp
    · rwa [same]

theorem eq_of_dropsReturn {before after : List Char} (noReturn : '\r' ∉ before)
    (drops : Relation.ReflTransGen DropsReturn before after) : after = before := by
  induction drops with
  | refl => rfl
  | tail earlier last ih =>
    obtain ⟨front, back, text, -⟩ := last
    subst ih
    exact absurd (by simp [text]) noReturn

/-- The last piece of a trimmed text ends as the text does. -/
theorem eq_nil_or_exists_solid_piece (text : List Char) (trimmed : trimEnd text = text) :
    text = [] ∨ ∃ others piece last, isBlank last = false ∧
      text.splitOn '\n' = others ++ [piece ++ [last]] ∧
      withoutReturn (piece ++ [last]) = piece ++ [last] := by
  rcases eq_nil_or_exists_solid text trimmed with empty | ⟨front, last, rfl, solid⟩
  · exact .inl empty
  · have differs : ∀ c, isBlank c = true → last ≠ c := by
      rintro c blank rfl
      exact Bool.false_ne_true (solid.symm.trans blank)
    obtain ⟨others, piece, split⟩ := splitOn_append_singleton front last (differs '\n' rfl)
    refine .inr ⟨others, piece, last, solid, split, ?_⟩
    apply withoutReturn_of_getLast?_ne
    simpa using differs '\r' rfl

theorem map_withoutReturn_of_noReturn (text : List Char) (noReturn : '\r' ∉ text) :
    (text.splitOn '\n').map withoutReturn = text.splitOn '\n' := by
  have kept : ∀ piece ∈ text.splitOn '\n', withoutReturn piece = id piece := by
    intro piece member
    apply withoutReturn_of_getLast?_ne
    intro ends
    exact noReturn ((infix_of_mem_splitOn text piece member).mem (List.mem_of_getLast? ends))
  rw [List.map_congr_left kept, List.map_id]

/-- Cutting a trimmed text at its line feeds is reading its lines, but that there is a piece even
in no text. -/
theorem splitOn_of_trimmed (text : List Char) (trimmed : trimEnd text = text)
    (noReturn : '\r' ∉ text) :
    text.splitOn '\n' = if text = [] then [[]] else lines text := by
  rcases eq_nil_or_exists_solid_piece text trimmed with
    rfl | ⟨others, piece, last, solid, split, kept⟩
  · rfl
  · have some : text ≠ [] := by
      rintro rfl
      cases others with
      | nil => simp at split
      | cons other rest => simp at split
    have front := map_withoutReturn_of_noReturn text noReturn
    rw [split, List.map_append, List.map_singleton, kept] at front
    rw [if_neg some, lines, pieces_lineFeed, split, linesOfPieces_append _ _ (by simp),
      List.append_cancel_right front]
    simp [linesOfPieces]

theorem dropsReturn_withoutReturns (text : List Char) (trimmed : trimEnd text = text) :
    Relation.ReflTransGen DropsReturn text (withoutReturns text) := by
  rcases eq_nil_or_exists_solid_piece text trimmed with
    rfl | ⟨others, piece, last, solid, split, kept⟩
  · exact .refl
  · have drops := dropsReturn_intercalate others (piece ++ [last])
    rw [← split, List.intercalate_splitOn] at drops
    rwa [withoutReturns, split, List.map_append, List.map_singleton, kept]

theorem trimEnd_withoutReturns (text : List Char) (trimmed : trimEnd text = text) :
    trimEnd (withoutReturns text) = withoutReturns text := by
  rcases eq_nil_or_exists_solid_piece text trimmed with
    rfl | ⟨others, piece, last, solid, split, kept⟩
  · rfl
  · rw [withoutReturns, split, List.map_append, List.map_singleton, kept,
      intercalate_append_singleton, trimEnd_append_singleton _ last solid]

theorem splitOn_withoutReturns (text : List Char) :
    (withoutReturns text).splitOn '\n' = (text.splitOn '\n').map withoutReturn := by
  refine List.splitOn_intercalate '\n' ?_ (by simp [List.splitOn_ne_nil])
  intro piece member
  obtain ⟨original, found, rfl⟩ := List.mem_map.mp member
  have absent := not_mem_of_mem_splitOn text original found
  exact fun feed => absent ((withoutReturn_isPrefix original).mem feed)

/-! ## Line ends -/

/-- The text with a line feed for every carriage return and line feed. -/
def withLineFeeds : List Char → List Char
  | [] => []
  | '\r' :: '\n' :: rest => '\n' :: withLineFeeds rest
  | c :: rest => c :: withLineFeeds rest

theorem withoutReturns_append_lineFeed (front back : List Char) (noFeed : '\n' ∉ front) :
    withoutReturns (front ++ '\n' :: back) =
      withoutReturn front ++ '\n' :: withoutReturns back := by
  rw [withoutReturns, List.splitOn_append_cons_self, List.splitOn_eq_singleton noFeed,
    List.singleton_append, List.map_cons,
    List.intercalate_cons_of_ne_nil (by simp [List.splitOn_ne_nil]), withoutReturns]
  simp

/-- A character is kept if it is no line feed and no carriage return that ends a line. -/
theorem withoutReturns_cons (c : Char) (rest : List Char) (noFeed : c ≠ '\n')
    (inside : c = '\r' → ∃ next others, rest = next :: others ∧ next ≠ '\n') :
    withoutReturns (c :: rest) = c :: withoutReturns rest := by
  obtain ⟨piece, others, shape⟩ :=
    List.exists_cons_of_ne_nil (List.splitOn_ne_nil '\n' rest)
  have grown : (c :: rest).splitOn '\n' = (c :: piece) :: others := by
    rw [List.splitOn_cons_eq_if_modifyHead, shape]
    simp [noFeed]
  have kept : withoutReturn (c :: piece) = c :: withoutReturn piece := by
    cases piece with
    | nil =>
      -- Nothing or a line feed comes next, so the character is no carriage return.
      have other : c ≠ '\r' := by
        intro isReturn
        obtain ⟨next, later, rfl, noFeed⟩ := inside isReturn
        rw [List.splitOn_cons_eq_if_modifyHead] at shape
        obtain ⟨first, back, laterShape⟩ :=
          List.exists_cons_of_ne_nil (List.splitOn_ne_nil '\n' later)
        simp [noFeed, laterShape] at shape
      simp [withoutReturn, other]
    | cons d piece =>
      rw [withoutReturn, withoutReturn, List.getLast?_cons_cons]
      split <;> rfl
  rw [withoutReturns, withoutReturns, grown, shape, List.map_cons, List.map_cons, kept]
  cases others with
  | nil => simp [List.intercalate_singleton]
  | cons second later => simp [List.intercalate_cons_cons]

theorem withoutReturns_eq (text : List Char) (closed : text.getLast? ≠ some '\r') :
    withoutReturns text = withLineFeeds text := by
  fun_induction withLineFeeds text with
  | case1 => rfl
  | case2 rest ih =>
    have later : rest.getLast? ≠ some '\r' := by
      cases rest with
      | nil => simp
      | cons c others => simpa using closed
    have cut := withoutReturns_append_lineFeed ['\r'] rest (by decide)
    rw [List.singleton_append] at cut
    rw [cut, ih later]
    rfl
  | case3 c rest noEnd ih =>
    have later : rest.getLast? ≠ some '\r' := by
      cases rest with
      | nil => simp
      | cons d others => simpa using closed
    by_cases feed : c = '\n'
    · have cut := withoutReturns_append_lineFeed [] rest (by simp)
      rw [List.nil_append] at cut
      rw [feed, cut, ih later]
      rfl
    · rw [withoutReturns_cons c rest feed, ih later]
      rintro rfl
      cases rest with
      | nil => exact absurd rfl closed
      | cons d others =>
        exact ⟨d, others, rfl, fun isFeed => noEnd others rfl (by rw [isFeed])⟩

theorem withoutReturns_of_trimmed (text : List Char) (trimmed : trimEnd text = text) :
    withoutReturns text = withLineFeeds text := by
  apply withoutReturns_eq
  rcases eq_nil_or_exists_solid text trimmed with rfl | ⟨front, last, rfl, solid⟩
  · simp
  · rw [List.getLast?_concat]
    intro same
    obtain rfl := Option.some.inj same
    exact absurd solid (by decide)

theorem withLineFeeds_eq_self_iff (text : List Char) :
    withLineFeeds text = text ↔ ¬ ['\r', '\n'] <:+: text := by
  fun_induction withLineFeeds text with
  | case1 => simp
  | case2 rest ih =>
    have inside : ['\r', '\n'] <:+: '\r' :: '\n' :: rest := ⟨[], rest, rfl⟩
    simp [inside]
  | case3 c rest noEnd ih =>
    have elsewhere : ¬ ['\r', '\n'] <+: c :: rest := by
      rintro ⟨tail, same⟩
      obtain ⟨rfl, rfl⟩ := List.cons.inj same
      exact noEnd tail rfl rfl
    rw [List.cons.injEq, List.infix_cons_iff, ih]
    simp [elsewhere]

end StagedFormat.Text
