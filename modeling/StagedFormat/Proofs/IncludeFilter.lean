import Mathlib.Data.List.Forall2
import StagedFormat.Config.Settings
import StagedFormat.Proofs.GlobLanguage
import StagedFormat.Proofs.PatternLanguage

/-!
# Which files are included

The globs of a configuration decide which files are considered.  They are used only if all of them
are valid, and then they decide together: a file is included if one of them matches its name with
slashes, or if there are none.  So neither the order of the globs nor the separators of the name
count, and of all steps to more globs only the first one can exclude a file.
-/

set_option autoImplicit false

namespace StagedFormat

/-! ## Lists that are read in order -/

section InOrder

variable {ε α β : Type} (read : α → Except ε β)

theorem mapM_cons_eq_ok_iff (item : α) (rest : List α) (results : List β) :
    (item :: rest).mapM read = .ok results ↔
      ∃ result others, read item = .ok result ∧ rest.mapM read = .ok others ∧
        results = result :: others := by
  rw [List.mapM_cons]
  rcases read item with error | result
  · exact ⟨nofun, fun ⟨_, _, wrong, _⟩ => nomatch wrong⟩
  · rcases rest.mapM read with error | others
    · exact ⟨nofun, fun ⟨_, _, _, wrong, _⟩ => nomatch wrong⟩
    · constructor
      · rintro ⟨⟩
        exact ⟨result, others, rfl, rfl, rfl⟩
      · rintro ⟨_, _, ⟨⟩, ⟨⟩, rfl⟩
        rfl

theorem mapM_cons_eq_error_iff (item : α) (rest : List α) (error : ε) :
    (item :: rest).mapM read = .error error ↔
      read item = .error error ∨
        (∃ result, read item = .ok result) ∧ rest.mapM read = .error error := by
  rw [List.mapM_cons]
  rcases read item with first | result
  · constructor
    · rintro ⟨⟩
      exact .inl rfl
    · rintro (⟨⟨⟩⟩ | ⟨⟨_, ⟨⟩⟩, _⟩)
      rfl
  · rcases rest.mapM read with later | others
    · constructor
      · rintro ⟨⟩
        exact .inr ⟨⟨result, rfl⟩, rfl⟩
      · rintro (⟨⟨⟩⟩ | ⟨_, ⟨⟩⟩)
        rfl
    · exact ⟨nofun, fun failed => nomatch (failed.resolve_left nofun).2⟩

theorem mapM_eq_ok_iff (items : List α) (results : List β) :
    items.mapM read = .ok results ↔
      List.Forall₂ (fun item result => read item = .ok result) items results := by
  induction items generalizing results with
  | nil => exact ⟨fun done => by cases done; exact .nil, fun done => by cases done; rfl⟩
  | cons item rest ih =>
    rw [mapM_cons_eq_ok_iff, List.forall₂_cons_left_iff]
    simp only [ih]

/-- Reading in order fails as the first item fails that cannot be read. -/
theorem mapM_eq_error_iff (items : List α) (error : ε) :
    items.mapM read = .error error ↔
      ∃ before item after, items = before ++ item :: after ∧
        (∀ earlier ∈ before, ∃ result, read earlier = .ok result) ∧ read item = .error error := by
  induction items with
  | nil => exact ⟨nofun, fun ⟨before, _, _, whole, _⟩ => by simp at whole⟩
  | cons item rest ih =>
    rw [mapM_cons_eq_error_iff, ih]
    constructor
    · rintro (failed | ⟨fine, before, bad, after, rfl, others, failed⟩)
      · exact ⟨[], item, rest, rfl, by simp, failed⟩
      · exact ⟨item :: before, bad, after, rfl, List.forall_mem_cons.mpr ⟨fine, others⟩, failed⟩
    · rintro ⟨before, bad, after, whole, fine, failed⟩
      cases before with
      | nil =>
        cases whole
        exact .inl failed
      | cons other before =>
        cases whole
        obtain ⟨first, others⟩ := List.forall_mem_cons.mp fine
        exact .inr ⟨first, before, bad, after, rfl, others, failed⟩

end InOrder

/-- What holds of some item of a list holds of an item of a list beside it, if it does in pairs. -/
theorem exists_mem_iff_of_forall₂ {α β : Type} {related : α → β → Prop} {holds : α → Prop}
    {corresponds : β → Prop} {items : List α} {others : List β}
    (pairs : List.Forall₂ related items others)
    (alike : ∀ item other, related item other → (holds item ↔ corresponds other)) :
    (∃ item ∈ items, holds item) ↔ ∃ other ∈ others, corresponds other := by
  induction pairs with
  | nil => simp
  | cons first _ ih => simp only [List.mem_cons, exists_eq_or_imp, alike _ _ first, ih]

/-! ## Names with other separators -/

open FilesArgument (Separates)

/-- Two names of files that differ at most in their separators. -/
def SameButSeparators (file other : String) : Prop :=
  List.Forall₂ (fun c d => c = d ∨ Separates c ∧ Separates d) file.toList other.toList

theorem forwardSlashes_eq {file other : String} (same : SameButSeparators file other) :
    forwardSlashes file.toList = forwardSlashes other.toList := by
  have slashed : ∀ c, Separates c → (if c = '\\' then '/' else c) = '/' := by
    rintro c (rfl | rfl) <;> rfl
  unfold SameButSeparators at same
  generalize file.toList = letters at same
  generalize other.toList = others at same
  induction same with
  | nil => rfl
  | cons alike _ ih =>
    rw [forwardSlashes, List.map_cons, ← forwardSlashes, ih, forwardSlashes, forwardSlashes,
      List.map_cons]
    rcases alike with rfl | ⟨left, right⟩
    · rfl
    · rw [slashed _ left, slashed _ right]

/-! ## Settings of a configuration -/

namespace Config

theorem compileGlob_eq_ok_iff (source : String) (glob : Glob) :
    compileGlob source = .ok glob ↔ Glob.compile source = .ok glob := by
  unfold compileGlob
  cases Glob.compile source <;> simp

theorem compileGlob_eq_error_iff (source : String) (problem : ConfigProblem) :
    compileGlob source = .error problem ↔
      ∃ error, Glob.compile source = .error error ∧ problem = .badGlob source error := by
  unfold compileGlob
  cases Glob.compile source <;> simp [eq_comm]

theorem settings_eq_ok_iff (config : Config) (settings : Settings) :
    config.settings = .ok settings ↔
      List.Forall₂ (fun source glob => Glob.compile source = .ok glob) config.included
          settings.globs ∧
        settings = ⟨config.mode, config.whitespace, settings.globs, config.task.goal⟩ := by
  have compiled := mapM_eq_ok_iff compileGlob config.included settings.globs
  simp only [compileGlob_eq_ok_iff] at compiled
  rw [← compiled, Config.settings]
  obtain ⟨mode, whitespace, globs, goal⟩ := settings
  cases config.included.mapM compileGlob <;> simp
  grind

theorem settings_eq_error_iff (config : Config) (failure : Failure) :
    config.settings = .error failure ↔
      ∃ before source after error, config.included = before ++ source :: after ∧
        (∀ earlier ∈ before, Glob.IsValid earlier) ∧ Glob.compile source = .error error ∧
        failure = .configuration (.badGlob source error) := by
  have split : config.settings = .error failure ↔
      ∃ problem, config.included.mapM compileGlob = .error problem ∧
        failure = .configuration problem := by
    rw [Config.settings]
    cases config.included.mapM compileGlob <;> simp [eq_comm]
  simp only [split, mapM_eq_error_iff, compileGlob_eq_ok_iff, ← Glob.isValid_iff,
    compileGlob_eq_error_iff]
  constructor
  · rintro ⟨_, ⟨before, source, after, whole, valid, error, failed, rfl⟩, rfl⟩
    exact ⟨before, source, after, error, whole, valid, failed, rfl⟩
  · rintro ⟨before, source, after, error, whole, valid, failed, rfl⟩
    exact ⟨_, ⟨before, source, after, whole, valid, error, failed, rfl⟩, rfl⟩

theorem exists_settings_error_iff (config : Config) :
    (∃ failure, config.settings = .error failure) ↔
      ∃ source ∈ config.included, ¬ Glob.IsValid source := by
  constructor
  · rintro ⟨failure, failed⟩
    obtain ⟨before, source, after, error, whole, -, bad, -⟩ :=
      (settings_eq_error_iff config failure).mp failed
    exact ⟨source, by simp [whole], (Glob.not_isValid_iff source).mpr ⟨error, bad⟩⟩
  · rintro ⟨source, member, invalid⟩
    cases made : config.settings with
    | error failure => exact ⟨failure, rfl⟩
    | ok settings =>
      obtain ⟨compiled, -⟩ := (settings_eq_ok_iff config settings).mp made
      have noneInvalid : (∃ source ∈ config.included, ¬ Glob.IsValid source) ↔
          ∃ glob ∈ settings.globs, False :=
        exists_mem_iff_of_forall₂ compiled fun source glob found => by
          simp [Glob.isValid_iff, found]
      obtain ⟨_, _, wrong⟩ := noneInvalid.mp ⟨source, member, invalid⟩
      exact wrong.elim

/-- A file is included if there are no globs, or one of them matches it. -/
theorem includes_iff {config : Config} {settings : Settings}
    (made : config.settings = .ok settings) (file : String) :
    settings.includes file = true ↔ config.included = [] ∨
      ∃ source ∈ config.included, Glob.Matches source (forwardSlashes file.toList) := by
  obtain ⟨compiled, -⟩ := (settings_eq_ok_iff config settings).mp made
  have matched : (∃ source ∈ config.included,
        Glob.Matches source (forwardSlashes file.toList)) ↔
      ∃ glob ∈ settings.globs, glob.accepts (forwardSlashes file.toList) = true :=
    exists_mem_iff_of_forall₂ compiled fun source glob found =>
      (Glob.accepts_iff_matches found _).symm
  have none : config.included = [] ↔ settings.globs = [] := by
    rw [← List.length_eq_zero_iff, compiled.length_eq, List.length_eq_zero_iff]
  simp [Settings.includes, matched, none]

/-! ## A glob that excludes a file -/

/-- For every text there is a glob that does not accept it. -/
theorem exists_excluding (text : List Char) :
    ∃ source glob, Glob.compile source = .ok glob ∧ glob.accepts text = false := by
  cases text with
  | nil => exact ⟨"?", ⟨"?", [.anyChar]⟩, by simp [Glob.compile, Glob.compileFrom, Except.map], rfl⟩
  | cons c rest => exact ⟨"", ⟨"", []⟩, by simp [Glob.compile, Glob.compileFrom, Except.map], rfl⟩

theorem exists_settings_excluding (config : Config) (file : String) :
    ∃ source settings, { config with included := [source] }.settings = .ok settings ∧
      settings.includes file = false := by
  obtain ⟨source, glob, compiled, excludes⟩ := exists_excluding (forwardSlashes file.toList)
  refine ⟨source, ⟨config.mode, config.whitespace, [glob], config.task.goal⟩, ?_, ?_⟩
  · rw [settings_eq_ok_iff]
    exact ⟨.cons compiled .nil, rfl⟩
  · simpa [Settings.includes] using excludes

/-- A configuration has settings exactly if its globs are valid, and they include the files that a
glob matches whatever its separators are, or all files if there are no globs.  Two configurations
with the same globs, in whatever order and however often, include the same files.  More globs
include more files, unless there were none; then every file can be excluded. -/
theorem settings_filter (config other : Config) :
    ((∃ failure, config.settings = .error failure) ↔
        ∃ source ∈ config.included, ¬ Glob.IsValid source) ∧
    (∀ failure, config.settings = .error failure →
      ∃ before source after error, config.included = before ++ source :: after ∧
        (∀ earlier ∈ before, Glob.IsValid earlier) ∧ Glob.compile source = .error error ∧
        failure = .configuration (.badGlob source error) ∧
        failure.message = "Invalid configuration: " ++
          ("invalid include pattern " ++ Text.quote source ++ ": " ++ error.message)) ∧
    (∀ settings, config.settings = .ok settings → ∀ file,
      (settings.includes file = true ↔ config.included = [] ∨
        ∃ source ∈ config.included, Glob.Matches source (forwardSlashes file.toList)) ∧
      ∀ respelled, SameButSeparators file respelled →
        settings.includes respelled = settings.includes file) ∧
    ((∀ source, source ∈ config.included ↔ source ∈ other.included) →
      ((∃ failure, config.settings = .error failure) ↔
        ∃ failure, other.settings = .error failure) ∧
      ∀ settings others, config.settings = .ok settings → other.settings = .ok others →
        ∀ file, settings.includes file = others.includes file) ∧
    (config.included ⊆ other.included →
      ∀ settings others, config.settings = .ok settings → other.settings = .ok others →
        ∀ file, settings.includes file = true → others.includes file = true ∨
          config.included = [] ∧ other.included ≠ []) ∧
    ∀ file, ∃ source settings, { config with included := [source] }.settings = .ok settings ∧
      settings.includes file = false := by
  refine ⟨exists_settings_error_iff config, ?_, ?_, ?_, ?_, exists_settings_excluding config⟩
  · intro failure failed
    obtain ⟨before, source, after, error, whole, valid, bad, rfl⟩ :=
      (settings_eq_error_iff config failure).mp failed
    exact ⟨before, source, after, error, whole, valid, bad, rfl, rfl⟩
  · intro settings made file
    refine ⟨includes_iff made file, fun respelled same => ?_⟩
    rw [Settings.includes, Settings.includes, forwardSlashes_eq same]
  · intro sameGlobs
    refine ⟨?_, fun settings others made othersMade file => ?_⟩
    · simp only [exists_settings_error_iff, sameGlobs]
    · have none : config.included = [] ↔ other.included = [] := by
        simp only [List.eq_nil_iff_forall_not_mem, sameGlobs]
      rw [Bool.eq_iff_iff, includes_iff made, includes_iff othersMade]
      simp only [none, sameGlobs]
  · intro more settings others made othersMade file included
    rw [includes_iff othersMade]
    rcases (includes_iff made file).mp included with none | ⟨source, member, matched⟩
    · by_cases still : other.included = []
      · exact .inl (.inl still)
      · exact .inr ⟨none, still⟩
    · exact .inl (.inr ⟨source, more member, matched⟩)

/-- Two globs, and the same ones in another order and with one of them repeated. -/
theorem settings_filter_reordered :
    ∃ settings others,
      { included := ["*.java", "**/[!a-c]?"] : Config }.settings = .ok settings ∧
      { included := ["**/[!a-c]?", "*.java", "**/[!a-c]?"] : Config }.settings = .ok others ∧
      settings.includes "src\\lib\\d1" = true ∧
      ∀ file, settings.includes file = others.includes file := by
  have java : Glob.compile "*.java" = .ok ⟨"*.java", .anySequence :: ".java".toList.map .char⟩ := by
    decide +kernel
  have short : Glob.compile "**/[!a-c]?" =
      .ok ⟨"**/[!a-c]?", [.anyDirectories, .anyExcept [.range 'a' 'c'], .anyChar]⟩ := by
    decide +kernel
  have made := (settings_eq_ok_iff { included := ["*.java", "**/[!a-c]?"] } ⟨_, _, _, _⟩).mpr
    ⟨.cons java (.cons short .nil), rfl⟩
  have othersMade := (settings_eq_ok_iff { included := ["**/[!a-c]?", "*.java", "**/[!a-c]?"] }
    ⟨_, _, _, _⟩).mpr ⟨.cons short (.cons java (.cons short .nil)), rfl⟩
  obtain ⟨-, -, -, alike, -, -⟩ := settings_filter { included := ["*.java", "**/[!a-c]?"] }
    { included := ["**/[!a-c]?", "*.java", "**/[!a-c]?"] }
  exact ⟨_, _, made, othersMade, by decide +kernel,
    (alike (by intro source; simp; grind)).2 _ _ made othersMade⟩

end Config

end StagedFormat
