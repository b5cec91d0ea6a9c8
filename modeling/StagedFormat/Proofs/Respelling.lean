import Mathlib.Logic.Relation
import StagedFormat.Proofs.PatternLanguage

/-!
# Paths with the same pattern

The pattern of a file can be read back: it is the same for two paths exactly if they have the same
names.  These are what is left of a path when its spelling does not count, so the paths with one
pattern are those that can be respelled into each other.
-/

set_option autoImplicit false

namespace StagedFormat.FilesArgument

/-! ## Reading the names back -/

def opensName : Regex → Bool
  | .set _ _ => true
  | _ => false

theorem opensName_eq_false_of_mem (name : List Char) :
    ∀ item ∈ name.map Regex.char, opensName item = false := by
  intro item member
  obtain ⟨c, -, rfl⟩ := List.mem_map.mp member
  rfl

/-- The items of a pattern come apart at the separators in front of the names. -/
theorem splitOnP_names (name : List Char) (others : List (List Char)) :
    (name.map Regex.char ++ others.flatMap nameItems).splitOnP opensName =
      (name :: others).map (List.map Regex.char) := by
  induction others generalizing name with
  | nil =>
    rw [List.flatMap_nil, List.append_nil,
      List.splitOnP_eq_singleton (opensName_eq_false_of_mem name)]
    rfl
  | cons next others ih =>
    rw [List.flatMap_cons, nameItems, List.cons_append,
      List.splitOnP_append_cons_of_forall_mem (opensName_eq_false_of_mem name) _ rfl, ih next]
    rfl

theorem flatMap_nameItems_injective :
    Function.Injective (fun names : List (List Char) => names.flatMap nameItems) := by
  intro names others same
  have apart := congrArg (List.splitOnP opensName) same
  have whole := fun names => splitOnP_names [] names
  simp only [List.map_nil, List.nil_append] at whole
  simp only [whole] at apart
  have charInjective : Function.Injective Regex.char := fun c d equal => Regex.char.inj equal
  exact (List.cons.inj (List.map_injective_iff.mpr (List.map_injective_iff.mpr charInjective)
    apart)).2

theorem ne_nil_of_mem_names (path name : List Char) (member : name ∈ names path) : name ≠ [] := by
  have counts := (List.mem_filter.mp member).2
  exact (by simpa using counts : name ≠ [] ∧ name ≠ ['.']).1

/-- The empty name stands for no name at all, as no name of a path is empty. -/
theorem eq_of_namesOrEmpty_eq (path other : List Char)
    (same : namesOrEmpty (names path) = namesOrEmpty (names other)) :
    names path = names other := by
  have filtered : ∀ path : List Char,
      (namesOrEmpty (names path)).filter (· ≠ []) = names path := by
    intro path
    unfold namesOrEmpty
    split
    · rename_i none
      rw [none]
      rfl
    · rw [List.filter_eq_self]
      intro name member
      simpa using ne_nil_of_mem_names path name member
  rw [← filtered path, same, filtered other]

theorem matchPattern_eq_iff_names (path other : String) :
    matchPattern path = matchPattern other ↔ names path.toList = names other.toList := by
  constructor
  · intro same
    have tokens := (tokens_matchPattern path).symm.trans
      ((congrArg _ (congrArg String.toList same)).trans (tokens_matchPattern other))
    obtain ⟨-, items⟩ := List.cons.inj (Option.some.inj tokens)
    have itemInjective : Function.Injective Regex.Token.item := fun _ _ equal =>
      Regex.Token.item.inj equal
    exact eq_of_namesOrEmpty_eq _ _ (flatMap_nameItems_injective
      (List.map_injective_iff.mpr itemInjective (List.cons.inj items).2))
  · intro same
    rw [← String.toList_inj, toList_matchPattern, toList_matchPattern, same]

/-! ## Respelling -/

/-- One change in the spelling of a path: another separator, a separator where there is one already
or at an end of the path, or a name `.` that leads nowhere. -/
inductive Respelled : List Char → List Char → Prop
  | exchanged (front back : List Char) (c d : Char) (old : Separates c) (new : Separates d) :
    Respelled (front ++ c :: back) (front ++ d :: back)
  | doubled (front back : List Char) (c d : Char) (old : Separates c) (new : Separates d) :
    Respelled (front ++ c :: back) (front ++ c :: d :: back)
  | leading (path : List Char) (c : Char) (new : Separates c) :
    Respelled path (c :: path)
  | trailing (path : List Char) (c : Char) (new : Separates c) :
    Respelled path (path ++ [c])
  | dotted (front back : List Char) (c d : Char) (old : Separates c) (new : Separates d) :
    Respelled (front ++ c :: back) (front ++ c :: '.' :: d :: back)
  | dotFirst (path : List Char) (c : Char) (new : Separates c) :
    Respelled path ('.' :: c :: path)
  | dotLast (path : List Char) (c : Char) (new : Separates c) :
    Respelled path (path ++ [c, '.'])

open Relation (EqvGen)

theorem names_append_cons (front back : List Char) (c : Char) (separates : Separates c) :
    names (front ++ c :: back) = names front ++ names back := by
  unfold names
  rw [List.splitOnP_append_cons _ _ (by simpa using separates), List.filter_append]

theorem names_cons (back : List Char) (c : Char) (separates : Separates c) :
    names (c :: back) = names back :=
  names_append_cons [] back c separates

theorem names_dot_cons (back : List Char) (c : Char) (separates : Separates c) :
    names ('.' :: c :: back) = names back := by
  have dot : names ['.'] = [] := by decide
  have cut := names_append_cons ['.'] back c separates
  rwa [dot] at cut

theorem names_eq_of_respelled {path other : List Char} (respelled : Respelled path other) :
    names path = names other := by
  have none : names [] = [] := rfl
  have dot : names ['.'] = [] := by decide
  cases respelled with
  | exchanged front back c d old new =>
    rw [names_append_cons front back c old, names_append_cons front back d new]
  | doubled front back c d old new =>
    rw [names_append_cons front back c old, names_append_cons front _ c old,
      names_cons back d new]
  | leading path c new => rw [names_cons path c new]
  | trailing path c new =>
    rw [names_append_cons path [] c new, none, List.append_nil]
  | dotted front back c d old new =>
    rw [names_append_cons front back c old, names_append_cons front _ c old,
      names_dot_cons back d new]
  | dotFirst path c new => rw [names_dot_cons path c new]
  | dotLast path c new =>
    rw [names_append_cons path ['.'] c new, dot, List.append_nil]

theorem names_eq_of_eqvGen {path other : List Char} (respelled : EqvGen Respelled path other) :
    names path = names other := by
  induction respelled with
  | rel _ _ step => exact names_eq_of_respelled step
  | refl _ => rfl
  | symm _ _ _ ih => exact ih.symm
  | trans _ _ _ _ _ first second => exact first.trans second

def closedBySlashes (pieces : List (List Char)) : List Char :=
  pieces.flatMap (· ++ ['/'])

theorem eqvGen_pieces (front path : List Char) :
    EqvGen Respelled (front ++ path ++ ['/'])
      (front ++ closedBySlashes (path.splitOnP fun c => Separates c)) := by
  induction path generalizing front with
  | nil =>
    rw [List.append_nil]
    exact .refl _
  | cons c rest ih =>
    rw [List.splitOnP_cons_eq_if_modifyHead]
    by_cases cut : Separates c
    · have exchanged := Respelled.exchanged front (rest ++ ['/']) c '/' cut (.inl rfl)
      have later := ih (front ++ ['/'])
      rw [if_pos (by simpa using cut)]
      refine .trans _ _ _ (.rel _ _ (by simpa using exchanged)) ?_
      simpa [closedBySlashes] using later
    · obtain ⟨piece, others, shape⟩ :=
        List.exists_cons_of_ne_nil (List.splitOnP_ne_nil (fun c => Separates c) rest)
      have later := ih (front ++ [c])
      rw [if_neg (by simpa using cut), shape, List.modifyHead_cons]
      rw [shape] at later
      simpa [closedBySlashes] using later

/-- Behind a slash, pieces that do not count can be left out. -/
theorem eqvGen_filter (front : List Char) (pieces : List (List Char)) :
    EqvGen Respelled (front ++ '/' :: closedBySlashes pieces)
      (front ++
        '/' :: closedBySlashes (pieces.filter fun piece => piece ≠ [] ∧ piece ≠ ['.'])) := by
  have slash : Separates '/' := .inl rfl
  -- The names that stay go to the front, so that there is always a slash before the next piece.
  induction pieces generalizing front with
  | nil => exact .refl _
  | cons piece others ih =>
    rw [List.filter_cons]
    by_cases empty : piece = []
    · have doubled := Respelled.doubled front (closedBySlashes others) '/' '/' slash slash
      have same : closedBySlashes (piece :: others) = '/' :: closedBySlashes others := by
        rw [empty]
        rfl
      rw [same]
      simpa [empty] using EqvGen.trans _ _ _ (.symm _ _ (.rel _ _ doubled)) (ih front)
    · by_cases dot : piece = ['.']
      · have dotted := Respelled.dotted front (closedBySlashes others) '/' '/' slash slash
        have same : closedBySlashes (piece :: others) = '.' :: '/' :: closedBySlashes others := by
          rw [dot]
          rfl
        rw [same]
        simpa [dot] using EqvGen.trans _ _ _ (.symm _ _ (.rel _ _ dotted)) (ih front)
      · have later := ih (front ++ '/' :: piece)
        simpa [empty, dot, closedBySlashes] using later

/-- Every path can be respelled as its names with slashes around them. -/
theorem eqvGen_names (path : List Char) :
    EqvGen Respelled path ('/' :: closedBySlashes (names path)) := by
  have slash : Separates '/' := .inl rfl
  have outer : EqvGen Respelled path ('/' :: path ++ ['/']) :=
    .trans _ _ _ (.rel _ _ (.leading path '/' slash)) (.rel _ _ (.trailing ('/' :: path) '/' slash))
  have inner := eqvGen_pieces ['/'] path
  have kept := eqvGen_filter [] (path.splitOnP fun c => Separates c)
  exact .trans _ _ _ outer (.trans _ _ _ inner kept)

theorem names_eq_iff_respelled (path other : List Char) :
    names path = names other ↔ EqvGen Respelled path other := by
  constructor
  · intro same
    have canonical := eqvGen_names path
    rw [same] at canonical
    exact .trans _ _ _ canonical (.symm _ _ (eqvGen_names other))
  · exact names_eq_of_eqvGen

/-- Two paths have the same pattern exactly if they have the same names, and so exactly if one is
the other respelled. -/
theorem matchPattern_identifies (path other : String) :
    (matchPattern path = matchPattern other ↔ names path.toList = names other.toList) ∧
      (matchPattern path = matchPattern other ↔
        EqvGen Respelled path.toList other.toList) := by
  have named := matchPattern_eq_iff_names path other
  exact ⟨named, named.trans (names_eq_iff_respelled _ _)⟩

end StagedFormat.FilesArgument
