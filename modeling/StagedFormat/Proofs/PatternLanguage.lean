import StagedFormat.FilesArgument.PassMode
import StagedFormat.Proofs.Lines
import StagedFormat.Proofs.Regex
import StagedFormat.Proofs.Utf8

/-!
# What the pattern of a file matches

The pattern for a file is written as a text and read as a regular expression.  It is well formed
for every path, and matches the names of the path with any separators between them, behind any
text without a line feed.
-/

set_option autoImplicit false

namespace StagedFormat.FilesArgument

open Regex (tokensFrom language)

/-! ## Names and their spellings -/

def Separates (c : Char) : Prop := c = '/' ∨ c = '\\'

instance (c : Char) : Decidable (Separates c) := inferInstanceAs (Decidable (_ ∨ _))

def names (path : List Char) : List (List Char) :=
  (path.splitOnP fun c => Separates c).filter fun piece => piece ≠ [] ∧ piece ≠ ['.']

/-- The texts that are names one after another, a separator before each; without a name, a
separator alone. -/
def Spells (names : List (List Char)) (text : List Char) : Prop :=
  if names = [] then ∃ c, Separates c ∧ text = [c]
  else
    ∃ separators : List Char, separators.length = names.length ∧
      (∀ c ∈ separators, Separates c) ∧ text = (List.zipWith List.cons separators names).flatten

theorem isSeparator_eq (c : Char) : isSeparator c = decide (Separates c) := by
  rw [Bool.eq_iff_iff, decide_eq_true_iff]
  simp [isSeparator, Separates]

theorem segments_eq_names (path : List Char) : segments path = names path := by
  have same : isSeparator = fun c => decide (Separates c) := funext isSeparator_eq
  rw [segments, names, Text.pieces_eq_splitOnP, same]

/-- A text behind a separator is spelled by its own pieces and separators. -/
theorem exists_separators (text : List Char) (c : Char) (separates : Separates c) :
    ∃ separators : List Char,
      separators.length = (text.splitOnP fun c => Separates c).length ∧
      (∀ d ∈ separators, Separates d) ∧
      c :: text = (List.zipWith List.cons separators
        (text.splitOnP fun c => Separates c)).flatten := by
  induction text generalizing c with
  | nil => exact ⟨[c], rfl, by simpa using separates, rfl⟩
  | cons d rest ih =>
    rw [List.splitOnP_cons_eq_if_modifyHead]
    by_cases cut : Separates d
    · obtain ⟨separators, length, each, spelled⟩ := ih d cut
      refine ⟨c :: separators, by simp [cut, length], ?_, ?_⟩
      · intro e member
        rcases List.mem_cons.mp member with rfl | later
        · exact separates
        · exact each e later
      · simp [cut, spelled]
    · obtain ⟨separators, length, each, spelled⟩ := ih c separates
      obtain ⟨piece, others, shape⟩ :=
        List.exists_cons_of_ne_nil (List.splitOnP_ne_nil (fun c => Separates c) rest)
      rw [shape] at length spelled ⊢
      cases separators with
      | nil => cases length
      | cons first later =>
        obtain ⟨rfl, tail⟩ := List.cons.inj (by simpa using spelled)
        refine ⟨c :: later, by simpa [cut] using length, each, ?_⟩
        simp [cut, tail]

/-! ## Reading the pattern -/

def separatorSet : Regex := .set false [('/', '/'), ('\\', '\\')]

def nameItems (name : List Char) : List Regex :=
  separatorSet :: name.map .char

theorem tokensFrom_separatorClass (rest : List Char) :
    tokensFrom .outside (separatorClass ++ rest) =
      (tokensFrom .outside rest).map (.item separatorSet :: ·) := by
  have text : separatorClass ++ rest = '[' :: '\\' :: '\\' :: '/' :: ']' :: rest := rfl
  rw [text, Regex.tokensFrom_cons .opening [] _ rfl,
    Regex.tokensFrom_cons (.insideEscaped false []) [] _ rfl,
    Regex.tokensFrom_cons (.inside false [] (some '\\')) [] _ rfl,
    Regex.tokensFrom_cons (.inside false [('\\', '\\')] (some '/')) [] _ rfl,
    Regex.tokensFrom_cons .outside [.item separatorSet] _ rfl]
  cases tokensFrom .outside rest <;> rfl

theorem read_of_isMeta (c : Char) (isMeta : isMeta c = true) :
    Regex.Mode.read .escaped c = some ([.item (.char c)], .outside) := by
  have escapable : Regex.isEscapable c = true := by
    have all : ∀ d ∈ "\\.+*?()|[]\x7b\x7d^$#&-~".toList, Regex.isEscapable d = true :=
      List.all_eq_true.mp (by decide)
    exact all c (by simpa [FilesArgument.isMeta] using isMeta)
  simp [Regex.Mode.read, escapable]

theorem read_of_not_isMeta (c : Char) (plain : isMeta c = false) :
    Regex.Mode.read .outside c = some ([.item (.char c)], .outside) := by
  have all : ∀ d ∈ Regex.specialOutside, isMeta d = true := List.all_eq_true.mp (by decide)
  have differs : ∀ d ∈ Regex.specialOutside, c ≠ d := by
    rintro d member rfl
    exact Bool.false_ne_true (plain.symm.trans (all c member))
  have absent : c ∉ Regex.specialOutside := fun member => differs c member rfl
  simp [Regex.Mode.read, Regex.readOutside, absent, differs '\\' (by decide),
    differs '[' (by decide), differs '.' (by decide), differs '*' (by decide),
    differs '+' (by decide), differs '?' (by decide), differs '|' (by decide),
    differs '(' (by decide), differs ')' (by decide)]

theorem tokensFrom_escape (word rest : List Char) :
    tokensFrom .outside (escape word ++ rest) =
      (tokensFrom .outside rest).map ((word.map Regex.char).map .item ++ ·) := by
  induction word with
  | nil => simp [escape]
  | cons c word ih =>
    have unfolded : escape (c :: word) = escape [c] ++ escape word := by simp [escape]
    rw [unfolded, List.append_assoc]
    cases isMeta : isMeta c with
    | true =>
      have text : escape [c] = ['\\', c] := by simp [escape, isMeta]
      rw [text, List.cons_append, List.singleton_append,
        Regex.tokensFrom_cons .escaped [] _ rfl,
        Regex.tokensFrom_cons _ _ _ (read_of_isMeta c isMeta), ih]
      cases tokensFrom .outside rest <;> simp
    | false =>
      have text : escape [c] = [c] := by simp [escape, isMeta]
      rw [text, List.singleton_append,
        Regex.tokensFrom_cons _ _ _ (read_of_not_isMeta c isMeta), ih]
      cases tokensFrom .outside rest <;> simp

theorem tokensFrom_names (names : List (List Char)) (rest : List Char) :
    tokensFrom .outside ((names.flatMap fun name => separatorClass ++ escape name) ++ rest) =
      (tokensFrom .outside rest).map ((names.flatMap nameItems).map .item ++ ·) := by
  induction names with
  | nil => simp
  | cons name others ih =>
    rw [List.flatMap_cons, List.append_assoc, List.append_assoc, tokensFrom_separatorClass,
      tokensFrom_escape, ih]
    cases tokensFrom .outside rest <;> simp [nameItems]

/-- The names of which a path consists, or the empty name if there is none. -/
def namesOrEmpty (names : List (List Char)) : List (List Char) :=
  if names = [] then [[]] else names

theorem separatorClass_intercalate (names : List (List Char)) :
    separatorClass ++ separatorClass.intercalate (names.map escape) =
      (namesOrEmpty names).flatMap fun name => separatorClass ++ escape name := by
  cases names with
  | nil => rfl
  | cons name others =>
    simp only [namesOrEmpty, List.cons_ne_nil, if_false]
    induction others generalizing name with
    | nil => simp
    | cons next others ih =>
      rw [List.map_cons, List.map_cons, List.intercalate_cons_cons, List.flatMap_cons,
        ← ih next, List.map_cons]
      simp

def patternRegex (path : List Char) : Regex :=
  Regex.Frame.close
    { items := (Regex.star .anyChar :: (namesOrEmpty (names path)).flatMap nameItems).reverse }

theorem toList_matchPattern (path : String) :
    (matchPattern path).toList =
      '.' :: '*' :: (namesOrEmpty (names path.toList)).flatMap fun name =>
        separatorClass ++ escape name := by
  rw [matchPattern, String.toList_ofList, List.append_assoc, separatorClass_intercalate,
    segments_eq_names]
  rfl

/-- What follows the dot in the pattern of a file. -/
def patternTokens (path : List Char) : List Regex.Token :=
  .repeated .star :: ((namesOrEmpty (names path)).flatMap nameItems).map .item

theorem tokensFrom_matchPattern (path : String) (rest : List Char) :
    tokensFrom .outside ((matchPattern path).toList ++ rest) =
      (tokensFrom .outside rest).map (.item .anyChar :: patternTokens path.toList ++ ·) := by
  rw [toList_matchPattern, List.cons_append, List.cons_append,
    Regex.tokensFrom_cons .outside [.item .anyChar] _ rfl,
    Regex.tokensFrom_cons .outside [.repeated .star] _ rfl, tokensFrom_names]
  cases tokensFrom .outside rest <;> simp [patternTokens]

theorem tokens_matchPattern (path : String) :
    tokensFrom .outside (matchPattern path).toList =
      some (.item .anyChar :: patternTokens path.toList) := by
  have read := tokensFrom_matchPattern path []
  rw [List.append_nil] at read
  simpa [tokensFrom] using read

theorem parse?_matchPattern (path : String) :
    Regex.parse? (matchPattern path).toList = some (patternRegex path.toList) := by
  have groups : (.item .anyChar :: patternTokens path.toList).foldlM Regex.Groups.add {} =
      some
        { current :=
            { items := ((namesOrEmpty (names path.toList)).flatMap nameItems).reverse
                ++ [.star .anyChar] } } := by
    rw [patternTokens, List.foldlM_cons, Regex.Groups.add, Option.bind_eq_bind, Option.bind_some,
      List.foldlM_cons]
    exact Regex.foldlM_add_items _ _
  rw [Regex.parse?, tokens_matchPattern, Option.bind_some, Regex.ofTokens?, groups, patternRegex,
    List.reverse_cons]

/-! ## The language of the pattern -/

theorem mem_language_separatorSet (text : List Char) :
    text ∈ separatorSet.language ↔ ∃ c, Separates c ∧ text = [c] := by
  have one : ∀ c d : Char, (decide (d ≤ c) && decide (c ≤ d)) = true ↔ c = d := by
    intro c d
    rw [Bool.and_eq_true, decide_eq_true_iff, decide_eq_true_iff]
    constructor
    · rintro ⟨low, high⟩
      exact Char.le_antisymm high low
    · rintro rfl
      exact ⟨Char.le_refl c, Char.le_refl c⟩
  have ranges : ∀ c, Regex.inRanges [('/', '/'), ('\\', '\\')] c = true ↔ Separates c := by
    intro c
    rw [Regex.inRanges, List.any_cons, List.any_cons, List.any_nil, Bool.or_false,
      Bool.or_eq_true, one, one]
    exact Iff.rfl
  rw [separatorSet, language, Regex.mem_oneCharacter]
  simp only [Bool.not_false, ranges]

theorem mem_language_names (names : List (List Char)) (text : List Char) :
    text ∈ ((names.flatMap nameItems).map language).prod ↔
      ∃ separators : List Char, separators.length = names.length ∧
        (∀ c ∈ separators, Separates c) ∧
        text = (List.zipWith List.cons separators names).flatten := by
  induction names generalizing text with
  | nil =>
    rw [List.flatMap_nil, List.map_nil, List.prod_nil, Language.mem_one]
    constructor
    · rintro rfl
      exact ⟨[], rfl, by simp, rfl⟩
    · rintro ⟨separators, length, -, spelled⟩
      rw [spelled, List.zipWith_nil_right, List.flatten_nil]
  | cons name others ih =>
    rw [List.flatMap_cons, nameItems, List.cons_append, List.map_cons, List.prod_cons,
      List.map_append, List.prod_append, Language.mem_mul]
    constructor
    · rintro ⟨first, firstIn, later, laterIn, rfl⟩
      obtain ⟨c, separates, rfl⟩ := (mem_language_separatorSet first).mp firstIn
      obtain ⟨word, wordIn, rest, restIn, rfl⟩ := Language.mem_mul.mp laterIn
      obtain ⟨separators, length, each, rfl⟩ := (ih rest).mp restIn
      rw [(Regex.mem_language_chars name word).mp wordIn]
      refine ⟨c :: separators, by simp [length], ?_, by simp⟩
      intro d member
      rcases List.mem_cons.mp member with rfl | tail
      · exact separates
      · exact each d tail
    · rintro ⟨separators, length, each, rfl⟩
      cases separators with
      | nil => cases length
      | cons c separators =>
        have rest := (ih (List.zipWith List.cons separators others).flatten).mpr
          ⟨separators, by simpa using length, fun d member => each d (by simp [member]), rfl⟩
        have word := (Regex.mem_language_chars name name).mpr rfl
        exact ⟨[c], (mem_language_separatorSet [c]).mpr ⟨c, each c (by simp), rfl⟩, _,
          Language.append_mem_mul word rest, by simp⟩

theorem spells_iff (names : List (List Char)) (text : List Char) :
    Spells names text ↔
      ∃ separators : List Char, separators.length = (namesOrEmpty names).length ∧
        (∀ c ∈ separators, Separates c) ∧
        text = (List.zipWith List.cons separators (namesOrEmpty names)).flatten := by
  unfold Spells namesOrEmpty
  by_cases empty : names = []
  · rw [if_pos empty, if_pos empty]
    constructor
    · rintro ⟨c, separates, rfl⟩
      exact ⟨[c], rfl, by simpa using separates, rfl⟩
    · rintro ⟨separators, length, each, spelled⟩
      obtain ⟨c, rfl⟩ := List.length_eq_one_iff.mp length
      exact ⟨c, each c (by simp), by simpa using spelled⟩
  · rw [if_neg empty, if_neg empty]

theorem mem_language_patternRegex (path text : List Char) :
    text ∈ (patternRegex path).language ↔
      ∃ lead tail, '\n' ∉ lead ∧ Spells (names path) tail ∧ text = lead ++ tail := by
  rw [patternRegex, Regex.language_close, List.map_cons, List.prod_cons, Language.mem_mul]
  constructor
  · rintro ⟨lead, leadIn, tail, tailIn, rfl⟩
    exact ⟨lead, tail, (Regex.mem_language_star_anyChar lead).mp leadIn,
      (spells_iff _ tail).mpr ((mem_language_names _ tail).mp tailIn), rfl⟩
  · rintro ⟨lead, tail, noFeed, spelled, rfl⟩
    exact ⟨lead, (Regex.mem_language_star_anyChar lead).mpr noFeed, tail,
      (mem_language_names _ tail).mpr ((spells_iff _ tail).mp spelled), rfl⟩

/-! ## The path of a file -/

theorem render_paths_of_isAbsolute (root : Path) (file : String)
    (absolute : (Path.ofText file).isAbsolute = true) :
    PassMode.paths.render root file = file := by
  rw [PassMode.render, Path.join_of_isAbsolute root _ absolute, Path.toText, Path.ofText,
    Text.ofBytes, Text.bytesOf, Text.decodeLossy_encode, String.ofList_toList]

/-- A file is shown behind what is shown of the root, with a slash in between where one is
missing. -/
theorem toList_render_paths (root : Path) (file : String)
    (relative : (Path.ofText file).isAbsolute = false) :
    (PassMode.paths.render root file).toList =
      root.toText.toList ++ (if root.needsSlash then ['/'] else []) ++ file.toList := by
  have shown : ∀ front : List UInt8,
      (Text.decodeLossy (front ++ Path.slash :: (Path.ofText file).bytes)) =
        Text.decodeLossy front ++ '/' :: file.toList := by
    intro front
    rw [Text.decodeLossy_append_ascii _ _ _ (by decide), Path.ofText, Text.bytesOf,
      Text.decodeLossy_encode]
    rfl
  simp only [PassMode.render, Path.toText, Text.ofBytes, String.toList_ofList, Path.join, relative,
    Bool.false_eq_true, if_false]
  by_cases apart : root.needsSlash = true
  · rw [if_pos apart, if_pos apart, shown, List.append_assoc]
    rfl
  · rw [if_neg apart, if_neg apart, List.append_nil]
    rcases List.eq_nil_or_concat' root.bytes with empty | ⟨front, last, bytes⟩
    · rw [empty, Path.ofText, Text.bytesOf, List.nil_append, Text.decodeLossy_encode]
      rfl
    · obtain rfl : last = Path.slash := by simpa [Path.needsSlash, bytes] using apart
      have closed := Text.decodeLossy_append_ascii front [] Path.slash (by decide)
      rw [bytes, List.append_assoc, List.singleton_append, shown, closed, List.append_assoc]
      rfl

/-- The path of a file under a root is a text without a line feed, a slash and the file. -/
theorem exists_lead (root : Path) (file : String) (someRoot : root.bytes ≠ [])
    (noFeed : 0x0A ∉ root.bytes) (relative : (Path.ofText file).isAbsolute = false) :
    ∃ lead, '\n' ∉ lead ∧
      (PassMode.paths.render root file).toList = lead ++ '/' :: file.toList := by
  have noFeedIn : '\n' ∉ root.toText.toList := by
    rw [Path.toText, Text.ofBytes, String.toList_ofList]
    exact fun feed => noFeed (Text.lineFeed_of_mem_decodeLossy root.bytes feed)
  rw [toList_render_paths root file relative]
  by_cases apart : root.needsSlash = true
  · exact ⟨root.toText.toList, noFeedIn, by rw [if_pos apart, List.append_assoc]; rfl⟩
  · obtain ⟨front, last, bytes⟩ : ∃ front last, root.bytes = front ++ [last] :=
      ⟨_, _, (List.dropLast_append_getLast someRoot).symm⟩
    obtain rfl : last = Path.slash := by simpa [Path.needsSlash, bytes] using apart
    have shown : root.toText.toList = Text.decodeLossy front ++ ['/'] := by
      rw [Path.toText, Text.ofBytes, String.toList_ofList, bytes,
        Text.decodeLossy_append_ascii front [] Path.slash (by decide)]
      rfl
    rw [shown] at noFeedIn ⊢
    refine ⟨Text.decodeLossy front, fun feed => noFeedIn (List.mem_append_left _ feed), ?_⟩
    rw [if_neg apart, List.append_nil, List.append_assoc, List.singleton_append]

/-- Whether a path is written without empty names and dots. -/
def IsProper (path : List Char) : Prop :=
  ∀ piece ∈ path.splitOnP fun c => Separates c, piece ≠ [] ∧ piece ≠ ['.']

theorem names_of_isProper (path : List Char) (proper : IsProper path) :
    names path = path.splitOnP fun c => Separates c := by
  rw [names, List.filter_eq_self]
  intro piece member
  simpa using proper piece member

theorem isAbsolute_of_isProper (path : String) (proper : IsProper path.toList) :
    (Path.ofText path).isAbsolute = false := by
  rw [← Bool.not_eq_true]
  intro absolute
  obtain ⟨rest, text⟩ := List.head?_eq_some_iff.mp ((Path.isAbsolute_ofText_iff path).mp absolute)
  rw [IsProper, text, List.splitOnP_cons_eq_if_modifyHead] at proper
  exact (proper [] (by simp [Separates])).1 rfl

theorem spells_of_isProper (path : List Char) (proper : IsProper path) :
    Spells (names path) ('/' :: path) := by
  have pieces := names_of_isProper path proper
  have named : names path ≠ [] := by
    rw [pieces]
    exact List.splitOnP_ne_nil _ _
  rw [Spells, if_neg named, pieces]
  exact exists_separators path '/' (Or.inl rfl)

theorem accepts_matchPattern_iff (path text : String) :
    Regex.Accepts (matchPattern path) text ↔
      ∃ lead tail, '\n' ∉ lead ∧ Spells (names path.toList) tail ∧ text.toList = lead ++ tail := by
  have parsed := parse?_matchPattern path
  rw [← mem_language_patternRegex]
  constructor
  · rintro ⟨regex, read, matched⟩
    rwa [← Option.some.inj (parsed.symm.trans read)] at matched
  · intro matched
    exact ⟨_, parsed, matched⟩

/-- The pattern of a file is well formed.  It accepts the texts that end with the names of the
file, each behind a separator, and have no line feed before them; so it accepts the path of the
file under any root. -/
theorem matchPattern_designates (path : String) :
    (∃ regex, Regex.parse? (matchPattern path).toList = some regex) ∧
      (∀ text, Regex.Accepts (matchPattern path) text ↔
        ∃ lead tail, '\n' ∉ lead ∧ Spells (names path.toList) tail ∧
          text.toList = lead ++ tail) ∧
      (∀ root : Path, root.bytes ≠ [] → 0x0A ∉ root.bytes → IsProper path.toList →
        Regex.Accepts (PassMode.patterns.render root path)
          (PassMode.paths.render root path)) := by
  refine ⟨⟨_, parse?_matchPattern path⟩, accepts_matchPattern_iff path, ?_⟩
  intro root someRoot noFeed proper
  obtain ⟨lead, leadNoFeed, text⟩ := exists_lead root path someRoot noFeed
    (isAbsolute_of_isProper path proper)
  exact (accepts_matchPattern_iff path _).mpr
    ⟨lead, '/' :: path.toList, leadNoFeed, spells_of_isProper path.toList proper, text⟩

/-- A file with a dot and a bracket in its name, under a root that is no text. -/
theorem matchPattern_designates_bracket :
    Regex.Accepts (PassMode.patterns.render ⟨[0x2F, 0xFF]⟩ "a[1]\\B.java")
      (PassMode.paths.render ⟨[0x2F, 0xFF]⟩ "a[1]\\B.java") :=
  (matchPattern_designates "a[1]\\B.java").2.2 ⟨[0x2F, 0xFF]⟩ (by decide) (by decide)
    (by unfold IsProper; decide)

end StagedFormat.FilesArgument
