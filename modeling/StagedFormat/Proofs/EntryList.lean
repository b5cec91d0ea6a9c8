import Mathlib.Algebra.GroupWithZero.Nat
import StagedFormat.Proofs.PatternLanguage

/-!
# The entries of the argument

The formatter cuts its argument at every comma.  Neither way of writing a file hides a comma, so
the formatter finds one entry for each file and one more for each comma in a name that is written.
Files without commas come back as they were written.  A pattern begins with a dot that nothing in
it repeats, so a list of patterns can still be told from any other; a list of paths cannot.
-/

set_option autoImplicit false

namespace StagedFormat.Text

/-! ## Joined lists -/

variable {α : Type}

/-- Cutting at the separator undoes a join up to the separators inside what was joined. -/
theorem splitOn_intercalate_eq_flatMap [BEq α] [LawfulBEq α] (separator : α)
    (texts : List (List α)) (some : texts ≠ []) :
    ([separator].intercalate texts).splitOn separator =
      texts.flatMap fun text => text.splitOn separator := by
  induction texts with
  | nil => exact absurd rfl some
  | cons first others ih =>
    cases others with
    | nil => simp [List.intercalate_singleton]
    | cons second others =>
      rw [List.intercalate_cons_cons, List.append_assoc, List.singleton_append,
        List.splitOn_append_cons_self, ih (by simp)]
      rfl

theorem length_splitOn [BEq α] [LawfulBEq α] (separator : α) (text : List α) :
    (text.splitOn separator).length = text.count separator + 1 := by
  induction text with
  | nil => simp
  | cons c rest ih =>
    rw [List.splitOn_cons_eq_if_modifyHead, List.count_cons]
    by_cases cut : c = separator
    · simp [cut, ih]
    · simp [cut, ih]

theorem append_cons_inj_of_unmarked (mark : α) (front other tail otherTail : List α)
    (unmarked : mark ∉ front) (otherUnmarked : mark ∉ other)
    (same : front ++ mark :: tail = other ++ mark :: otherTail) :
    front = other ∧ tail = otherTail := by
  have longer : ∀ extra : List α, ∀ left right : List α,
      mark :: left = extra ++ mark :: right → mark ∉ extra → extra = [] := by
    intro extra left right shifted absent
    cases extra with
    | nil => rfl
    | cons c extra =>
      obtain ⟨rfl, -⟩ := List.cons.inj shifted
      exact absurd List.mem_cons_self absent
  rcases List.append_eq_append_iff.mp same with ⟨extra, rfl, shifted⟩ | ⟨extra, rfl, shifted⟩
  · obtain rfl := longer extra _ _ shifted fun inside =>
      otherUnmarked (List.mem_append_right _ inside)
    simpa using shifted
  · obtain rfl := longer extra _ _ shifted fun inside =>
      unmarked (List.mem_append_right _ inside)
    simpa [eq_comm] using shifted

/-- Blocks behind a mark that none of them holds are told apart, whatever stands between them. -/
theorem eq_of_marked (mark separator : α) (differs : mark ≠ separator) (first other : List α)
    (rest others : List (List α)) (unmarked : ∀ block ∈ first :: rest, mark ∉ block)
    (othersUnmarked : ∀ block ∈ other :: others, mark ∉ block)
    (same : first ++ rest.flatMap (separator :: mark :: ·) =
      other ++ others.flatMap (separator :: mark :: ·)) :
    first :: rest = other :: others := by
  induction rest generalizing first other others with
  | nil =>
    cases others with
    | nil => simpa using same
    | cons next others =>
      rw [List.flatMap_nil, List.append_nil] at same
      exact absurd (by simp [same]) (unmarked first List.mem_cons_self)
  | cons next rest ih =>
    cases others with
    | nil =>
      rw [List.flatMap_nil, List.append_nil] at same
      exact absurd (by simp [← same]) (othersUnmarked other List.mem_cons_self)
    | cons otherNext others =>
      have cut : (first ++ [separator]) ++ mark :: (next ++ rest.flatMap (separator :: mark :: ·)) =
          (other ++ [separator]) ++
            mark :: (otherNext ++ others.flatMap (separator :: mark :: ·)) := by
        simpa using same
      obtain ⟨heads, tails⟩ := append_cons_inj_of_unmarked mark _ _ _ _
        (by simpa [differs] using unmarked first List.mem_cons_self)
        (by simpa [differs] using othersUnmarked other List.mem_cons_self) cut
      have later := ih next otherNext others
        (fun block member => unmarked block (List.mem_cons_of_mem first member))
        (fun block member => othersUnmarked block (List.mem_cons_of_mem other member)) tails
      rw [List.append_cancel_right heads, later]

end StagedFormat.Text

namespace StagedFormat.PassMode

open FilesArgument

/-! ## Commas in an entry -/

/-- The entries that the formatter finds in its argument. -/
def entriesOf (argument : String) : List String :=
  (argument.toList.splitOn ',').map String.ofList

def commasIn (mode : PassMode) (root : Path) (file : String) : Nat :=
  match mode with
  | paths =>
    if (Path.ofText file).isAbsolute then file.toList.count ','
    else root.toText.toList.count ',' + file.toList.count ','
  | patterns => file.toList.count ','

theorem count_escape (text : List Char) : (escape text).count ',' = text.count ',' := by
  induction text with
  | nil => rfl
  | cons c rest ih =>
    have unfolded : escape (c :: rest) = (if isMeta c then ['\\', c] else [c]) ++ escape rest :=
      rfl
    rw [unfolded, List.count_append, ih, List.count_cons]
    split <;> simp [List.count_cons, Nat.add_comm]

theorem sum_count_splitOnP (path : List Char) :
    ((path.splitOnP fun c => Separates c).map (List.count ',')).sum = path.count ',' := by
  induction path with
  | nil => rfl
  | cons c rest ih =>
    rw [List.splitOnP_cons_eq_if_modifyHead, List.count_cons, ← ih]
    by_cases cut : Separates c
    · have other : (c == ',') = false := by
        rcases cut with rfl | rfl <;> rfl
      simp [cut, other]
    · obtain ⟨piece, others, shape⟩ :=
        List.exists_cons_of_ne_nil (List.splitOnP_ne_nil (fun c => Separates c) rest)
      simp [cut, shape, List.count_cons]
      omega

theorem sum_count_names (path : List Char) :
    ((names path).map (List.count ',')).sum = path.count ',' := by
  rw [← sum_count_splitOnP, names]
  induction path.splitOnP fun c => Separates c with
  | nil => rfl
  | cons piece others ih =>
    rw [List.filter_cons, List.map_cons, List.sum_cons, ← ih]
    split
    · rfl
    · rename_i dropped
      have none : piece.count ',' = 0 := by
        by_cases empty : piece = []
        · rw [empty, List.count_nil]
        · obtain rfl : piece = ['.'] := by simpa [empty] using dropped
          rfl
      rw [none, Nat.zero_add]

theorem count_matchPattern (file : String) :
    (matchPattern file).toList.count ',' = file.toList.count ',' := by
  have each : (fun name => (separatorClass ++ escape name).count ',') = List.count ',' := by
    funext name
    rw [List.count_append, count_escape]
    exact Nat.zero_add _
  have named : ∀ names : List (List Char),
      ((namesOrEmpty names).map (List.count ',')).sum = (names.map (List.count ',')).sum := by
    intro names
    unfold namesOrEmpty
    split <;> simp_all
  rw [toList_matchPattern, List.count_cons, List.count_cons, List.count_flatMap]
  simp only [Function.comp_def, each, named, sum_count_names]
  rfl

theorem count_render (mode : PassMode) (root : Path) (file : String) :
    (mode.render root file).toList.count ',' = mode.commasIn root file := by
  cases mode with
  | patterns => exact count_matchPattern file
  | paths =>
    unfold commasIn
    by_cases absolute : (Path.ofText file).isAbsolute = true
    · rw [if_pos absolute, render_paths_of_isAbsolute root file absolute]
    · have relative : (Path.ofText file).isAbsolute = false := by simpa using absolute
      rw [if_neg absolute, toList_render_paths root file relative]
      split <;> simp

/-! ## Reading the argument -/

theorem toList_join (mode : PassMode) (root : Path) (files : List String) :
    (mode.join root files).toList =
      [','].intercalate (files.map fun file => (mode.render root file).toList) := by
  rw [join, String.toList_intercalate, List.map_map]
  rfl

theorem entriesOf_join (mode : PassMode) (root : Path) (files : List String)
    (someFile : files ≠ []) :
    entriesOf (mode.join root files) =
      files.flatMap fun file => entriesOf (mode.render root file) := by
  rw [entriesOf, toList_join, Text.splitOn_intercalate_eq_flatMap _ _ (by simpa using someFile),
    List.flatMap_map, List.map_flatMap]
  rfl

theorem length_entriesOf (argument : String) :
    (entriesOf argument).length = argument.toList.count ',' + 1 := by
  rw [entriesOf, List.length_map, Text.length_splitOn]

theorem length_entriesOf_join (mode : PassMode) (root : Path) (files : List String)
    (someFile : files ≠ []) :
    (entriesOf (mode.join root files)).length =
      files.length + (files.map (mode.commasIn root)).sum := by
  rw [entriesOf_join mode root files someFile, List.length_flatMap]
  simp only [length_entriesOf, count_render]
  clear someFile
  induction files with
  | nil => rfl
  | cons file files ih =>
    simp only [List.map_cons, List.sum_cons, List.length_cons] at ih ⊢
    omega

theorem entriesOf_render (mode : PassMode) (root : Path) (file : String)
    (plain : mode.commasIn root file = 0) :
    entriesOf (mode.render root file) = [mode.render root file] := by
  have absent : ',' ∉ (mode.render root file).toList := by
    rw [← List.count_eq_zero, count_render, plain]
  rw [entriesOf, List.splitOn_eq_singleton absent, List.map_singleton, String.ofList_toList]

theorem entriesOf_join_eq_iff (mode : PassMode) (root : Path) (files : List String)
    (someFile : files ≠ []) :
    entriesOf (mode.join root files) = files.map (mode.render root) ↔
      ∀ file ∈ files, mode.commasIn root file = 0 := by
  constructor
  · intro same file member
    have number := length_entriesOf_join mode root files someFile
    rw [same, List.length_map] at number
    have none : (files.map (mode.commasIn root)).sum = 0 := by omega
    exact List.sum_eq_zero_iff_forall_eq_nat.mp none _ (List.mem_map_of_mem member)
  · intro plain
    rw [entriesOf_join mode root files someFile, List.map_eq_flatMap]
    exact List.flatMap_congr fun file member => entriesOf_render mode root file (plain file member)

/-! ## Patterns -/

def tokenText : Regex.Token → List Char
  | .item (.char c) => escape [c]
  | .item .anyChar => ['.']
  | .repeated _ => ['*']
  | _ => separatorClass

theorem flatMap_tokenText (file : String) :
    (.item .anyChar :: patternTokens file.toList).flatMap tokenText =
      (matchPattern file).toList := by
  rw [toList_matchPattern, patternTokens]
  simp [tokenText, nameItems, List.flatMap_map, separatorSet, escape, List.flatMap_assoc]

/-- Patterns with commas between them are read as their tokens with commas between them. -/
theorem tokensFrom_patterns (file : String) (files : List String) :
    Regex.tokensFrom .outside
        ([','].intercalate ((file :: files).map fun file => (matchPattern file).toList)) =
      some (.item .anyChar :: (patternTokens file.toList ++
        (files.map fun file => patternTokens file.toList).flatMap
          (.item (.char ',') :: .item .anyChar :: ·))) := by
  induction files generalizing file with
  | nil =>
    simpa [List.intercalate_singleton] using tokens_matchPattern file
  | cons next files ih =>
    have comma := read_of_not_isMeta ',' (by decide)
    have later := ih next
    rw [List.map_cons] at later
    rw [List.map_cons, List.map_cons, List.intercalate_cons_cons, List.append_assoc,
      List.singleton_append, tokensFrom_matchPattern, Regex.tokensFrom_cons _ _ _ comma, later]
    simp

theorem anyChar_not_mem_patternTokens (path : List Char) :
    Regex.Token.item .anyChar ∉ patternTokens path := by
  simp [patternTokens, nameItems, separatorSet]

theorem render_patterns_eq (root : Path) (file : String) :
    patterns.render root file =
      String.ofList ((.item .anyChar :: patternTokens file.toList).flatMap tokenText) := by
  rw [flatMap_tokenText, String.ofList_toList]
  rfl

/-- A dot that is not escaped is the beginning of a pattern, so the argument has one reading as a
list of patterns, commas in the names or not. -/
theorem patterns_join_inj (root : Path) (files others : List String) (someFile : files ≠ [])
    (someOther : others ≠ [])
    (same : patterns.join root files = patterns.join root others) :
    files.map (patterns.render root) = others.map (patterns.render root) := by
  obtain ⟨file, files, rfl⟩ := List.exists_cons_of_ne_nil someFile
  obtain ⟨other, others, rfl⟩ := List.exists_cons_of_ne_nil someOther
  have texts := congrArg String.toList same
  rw [toList_join, toList_join] at texts
  have tokens := (tokensFrom_patterns file files).symm.trans
    ((congrArg _ texts).trans (tokensFrom_patterns other others))
  obtain ⟨-, blocks⟩ := List.cons.inj (Option.some.inj tokens)
  have unmarked : ∀ named : List String,
      ∀ block ∈ named.map fun file => patternTokens file.toList,
        Regex.Token.item .anyChar ∉ block := by
    intro named block member
    obtain ⟨file, -, rfl⟩ := List.mem_map.mp member
    exact anyChar_not_mem_patternTokens file.toList
  have equal : ((file :: files).map fun file => patternTokens file.toList) =
      (other :: others).map fun file => patternTokens file.toList :=
    Text.eq_of_marked _ _ (by simp) _ _ _ _ (unmarked (file :: files))
      (unmarked (other :: others)) blocks
  -- The tokens of a pattern say how it is written.
  have written := congrArg (List.map fun tokens : List Regex.Token =>
    String.ofList ((.item .anyChar :: tokens).flatMap tokenText)) equal
  rw [List.map_map, List.map_map] at written
  rw [funext (render_patterns_eq root)]
  exact written

/-! ## What the formatter reads -/

/-- The formatter finds what it would find in each entry, one entry for each file and one for each
comma in them.  It finds the entries themselves exactly if none has a comma; then they can be told
from all other such entries, and patterns can be told apart in any case. -/
theorem join_comes_apart (mode : PassMode) (root : Path) (files : List String)
    (someFile : files ≠ []) :
    entriesOf (mode.join root files) =
        files.flatMap (fun file => entriesOf (mode.render root file)) ∧
      (entriesOf (mode.join root files)).length =
        files.length + (files.map (mode.commasIn root)).sum ∧
      (entriesOf (mode.join root files) = files.map (mode.render root) ↔
        ∀ file ∈ files, mode.commasIn root file = 0) ∧
      (∀ others, others ≠ [] →
        mode = patterns ∨ (∀ file ∈ files ++ others, mode.commasIn root file = 0) →
        mode.join root files = mode.join root others →
          files.map (mode.render root) = others.map (mode.render root)) := by
  refine ⟨entriesOf_join mode root files someFile, length_entriesOf_join mode root files someFile,
    entriesOf_join_eq_iff mode root files someFile, ?_⟩
  rintro others someOther (rfl | plain) same
  · exact patterns_join_inj root files others someFile someOther same
  · have left := (entriesOf_join_eq_iff mode root files someFile).mpr fun file member =>
      plain file (List.mem_append_left _ member)
    have right := (entriesOf_join_eq_iff mode root others someOther).mpr fun file member =>
      plain file (List.mem_append_right _ member)
    rw [← left, same, right]

/-- A file with a comma in its name, written in two ways. -/
theorem join_comes_apart_comma :
    ["src/A,B.java"] ≠ [] ∧
      (entriesOf (patterns.join ⟨[0x2F, 0xFF]⟩ ["src/A,B.java"])).length = 2 ∧
      ["src/A,B.java"].map (patterns.render ⟨[0x2F, 0xFF]⟩) =
        ["./src\\A,B.java"].map (patterns.render ⟨[0x2F, 0xFF]⟩) := by
  have some : ["src/A,B.java"] ≠ [] := by decide
  obtain ⟨-, number, -, told⟩ := join_comes_apart patterns ⟨[0x2F, 0xFF]⟩ ["src/A,B.java"] some
  refine ⟨some, ?_, told ["./src\\A,B.java"] (by decide) (.inl rfl) (by decide)⟩
  rw [number]
  decide

/-- In either mode a file with a comma in its name is taken for two entries.  As a path it may even
be written exactly as two other files are. -/
theorem join_cuts_a_name :
    entriesOf (paths.join (Path.ofText "/r") ["a,b.java"]) = ["/r/a", "b.java"] ∧
      ["a,b.java"].map (paths.render (Path.ofText "/r")) = ["/r/a,b.java"] ∧
      entriesOf (patterns.join (Path.ofText "/r") ["a,b.java"]) = [".*[\\\\/]a", "b\\.java"] ∧
      ["a,b.java"].map (patterns.render (Path.ofText "/r")) = [".*[\\\\/]a,b\\.java"] ∧
      paths.join (Path.ofText "/r") ["a,/r/b"] = paths.join (Path.ofText "/r") ["a", "b"] ∧
      ["a,/r/b"].map (paths.render (Path.ofText "/r")) ≠
        ["a", "b"].map (paths.render (Path.ofText "/r")) := by
  decide

end StagedFormat.PassMode
