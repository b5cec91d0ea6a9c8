import StagedFormat.CommandLine.Parse
import StagedFormat.Proofs.Utf8

/-!
# Files after two dashes

Whatever stands behind `--` on a command line is the name of a file, also where it looks like an
option or a command.  `Reader.Ready` says what the reader has gathered before each option, and
`parse_files_after_dashes` what a whole command line of options, `--` and files comes to.
-/

set_option autoImplicit false

namespace StagedFormat.CommandLine

/-! ## Options as they are written -/

/-- A word that is accepted as a mode. -/
structure ModeWord where
  text : String
  mode : PassMode
  accepted : PassMode.parse? text = some mode

/-- An option of a formatting run, with what is left to whoever writes it: the short name or the
long one, and the value of an option in the same word or in the next. -/
inductive WrittenOption
  | verbose (short : Bool)
  | json
  | dryRun
  | mode (word : ModeWord) (sameWord : Bool)

namespace WrittenOption

def words : WrittenOption → List String
  | verbose short => if short then ["-v"] else ["--verbose"]
  | json => ["--json"]
  | dryRun => ["--dry-run"]
  | mode word sameWord => if sameWord then ["--mode=" ++ word.text] else ["--mode", word.text]

/-- The name of an option, in whichever way it is written. -/
def name : WrittenOption → String
  | verbose _ => "verbose"
  | json => "json"
  | dryRun => "dry-run"
  | mode _ _ => "mode"

def turnsOn : WrittenOption → Switch → Bool
  | verbose _, .verbose => true
  | json, .json => true
  | dryRun, .dryRun => true
  | _, _ => false

def mode? : WrittenOption → Option PassMode
  | mode word _ => some word.mode
  | _ => none

/-- What has been given once the option has been read too. -/
def addTo (given : Given) : WrittenOption → Given
  | verbose _ => { given with switches := .verbose :: given.switches }
  | json => { given with switches := .json :: given.switches }
  | dryRun => { given with switches := .dryRun :: given.switches }
  | mode word _ => { given with mode := some word.mode }

def IsNew (given : Given) : WrittenOption → Prop
  | verbose _ => .verbose ∉ given.switches
  | json => .json ∉ given.switches
  | dryRun => .dryRun ∉ given.switches
  | mode _ _ => given.mode = none

theorem isNew_addTo {given : Given} {option other : WrittenOption} (new : option.IsNew given)
    (differ : option.name ≠ other.name) : option.IsNew (other.addTo given) := by
  cases option <;> cases other <;> simp_all [IsNew, addTo, name]

end WrittenOption

/-! ## Reading options -/

theorem ok_bind {ε α β : Type} (value : α) (next : α → Except ε β) :
    (Except.ok value >>= next) = next value :=
  rfl

theorem textOf_bytesOf (text : String) : textOf (Text.bytesOf text) = .ok text := by
  rw [textOf, Text.bytesOf, Text.decode?_encode]
  simp

/-- The reader may go on with any argument: once it has taken in what it holds back, this is what
has been given. -/
structure Reader.Open (reader : Reader) (given : Given) : Prop where
  taken : reader.given.takeIn reader.held = .ok given
  options : reader.onlyFiles = false

/-- The reader may go on, and has met no file. -/
structure Reader.Ready (reader : Reader) (given : Given) : Prop extends reader.Open given where
  noFiles : ∀ arguments, reader.held ≠ .files arguments

namespace Reader

theorem settle_of_takeIn (reader : Reader) {given : Given}
    (taken : reader.given.takeIn reader.held = .ok given) :
    reader.settle = .ok { reader with given, held := .nothing } := by
  rw [settle, taken]
  rfl

theorem ready_of_nothing (given : Given) : Ready { given } given :=
  ⟨⟨rfl, rfl⟩, fun _ held => nomatch held⟩

namespace Open

variable {reader : Reader} {given : Given}

theorem settle (ready : reader.Open given) : reader.settle = .ok { given } := by
  rw [settle_of_takeIn reader ready.taken, ready.options]

theorem turnOn (ready : reader.Open given) (option : CommandOption) {switch : Switch}
    (effect : option.effect = .turnOn switch) (off : switch ∉ given.switches)
    (isLongName : Bool) :
    reader.applyPlain option isLongName =
      .ok { given := { given with switches := switch :: given.switches } } := by
  have turned : given.turnOn option switch =
      .ok { given with switches := switch :: given.switches } := by
    rw [Given.turnOn, if_neg (by simpa using off)]
  simp only [applyPlain, ready.settle, effect, ok_bind, turned]

/-- An argument that begins with two dashes and goes on is a long name. -/
theorem take_long (ready : reader.Open given) (grammar : Grammar) (body : Argument)
    (goesOn : body ≠ []) :
    reader.take grammar (dash :: dash :: body) = reader.takeLong grammar body := by
  simp [take, ready.options, goesOn]

theorem take_short (ready : reader.Open given) (grammar : Grammar) (body : Argument)
    (goesOn : body ≠ []) (single : body.head? ≠ some dash) :
    reader.take grammar (dash :: body) = reader.takeShorts grammar (Text.decode body) := by
  cases body with
  | nil => exact absurd rfl goesOn
  | cons second name =>
    have notDash : second ≠ dash := by simpa using single
    simp [take, ready.options, notDash]

end Open

/-- A single dash is a word. -/
theorem take_of_word {reader : Reader} (options : reader.onlyFiles = false) (grammar : Grammar)
    {argument : Argument} (isWord : argument.head? = some dash → argument = [dash]) :
    reader.take grammar argument = reader.takeWord grammar argument := by
  cases argument with
  | nil => simp [take, options]
  | cons first body =>
    by_cases dashed : first = dash
    · obtain ⟨rfl, rfl⟩ : first = dash ∧ body = [] := by simpa [dashed] using isWord
      simp [take, options]
    · simp [take, options, dashed]

end Reader

theorem ModeWord.head?_ne_dash (word : ModeWord) :
    (Text.bytesOf word.text).head? ≠ some dash := by
  intro dashed
  have first : word.text.toList.head? = some '-' :=
    Text.head?_of_head?_encode word.text.toList dash (by decide) dashed
  obtain ⟨rest, letters⟩ := List.head?_eq_some_iff.mp first
  have refused : PassMode.parse? word.text = none := by
    simp [PassMode.parse?, letters]
  rw [word.accepted] at refused
  cases refused

theorem Given.set_mode (given : Given) (option : CommandOption) (word : ModeWord)
    (unset : given.mode = none) :
    given.set option .mode (Text.bytesOf word.text) =
      .ok { given with mode := some word.mode } := by
  have free : given.has .mode = false := by rw [Given.has, unset, Option.isSome_none]
  simp only [Given.set, free, Bool.false_eq_true, if_false, textOf_bytesOf, ok_bind,
    word.accepted]

namespace Reader.Open

variable {reader : Reader} {given : Given}

theorem readSwitch (ready : reader.Open given) (grammar : Grammar) (name : String)
    (option : CommandOption) {switch : Switch} (goesOn : Text.bytesOf name ≠ [])
    (known : reader.takeLong grammar (Text.bytesOf name) = reader.applyPlain option true)
    (effect : option.effect = .turnOn switch) (off : switch ∉ given.switches) :
    reader.take grammar (dash :: dash :: Text.bytesOf name) =
      .ok { given := { given with switches := switch :: given.switches } } := by
  rw [ready.take_long grammar _ goesOn, known, ready.turnOn option effect off]

theorem readLetter (ready : reader.Open given) (grammar : Grammar) (letter : Char)
    (option : CommandOption) (known : grammar.findShort? letter = some option) {switch : Switch}
    (effect : option.effect = .turnOn switch) (off : switch ∉ given.switches)
    (rest : List (Option Char)) :
    reader.takeShorts grammar (some letter :: rest) =
      takeShorts grammar { given := { given with switches := switch :: given.switches } } rest := by
  rw [takeShorts, known]
  simp only [ready.turnOn option effect off false]

theorem readShort (ready : reader.Open given) (grammar : Grammar) (byte : UInt8) (letter : Char)
    (notDash : byte ≠ dash) (letters : Text.decode [byte] = [some letter])
    (option : CommandOption) (known : grammar.findShort? letter = some option) {switch : Switch}
    (effect : option.effect = .turnOn switch) (off : switch ∉ given.switches) :
    reader.take grammar [dash, byte] =
      .ok { given := { given with switches := switch :: given.switches } } := by
  rw [ready.take_short grammar [byte] (by simp) (by simpa using notDash), letters,
    ready.readLetter grammar letter option known effect off, takeShorts]

/-- Both the program and the command have the option for more output. -/
theorem readVerbose (ready : reader.Open given) {grammar : Grammar}
    (shares : grammar = .installHook ∨ grammar = .program) (short : Bool)
    (off : .verbose ∉ given.switches) :
    reader.take grammar (Text.bytesOf (if short then "-v" else "--verbose")) =
      .ok { given := { given with switches := .verbose :: given.switches } } := by
  cases short with
  | true =>
    rcases shares with rfl | rfl <;>
      exact ready.readShort _ 0x76 'v' (by decide) rfl Grammar.verbose rfl rfl off
  | false =>
    rcases shares with rfl | rfl <;>
      exact ready.readSwitch _ "verbose" Grammar.verbose (by decide) rfl rfl off

theorem readJson (ready : reader.Open given) {grammar : Grammar}
    (shares : grammar = .installHook ∨ grammar = .program) (off : .json ∉ given.switches) :
    reader.take grammar (Text.bytesOf "--json") =
      .ok { given := { given with switches := .json :: given.switches } } := by
  rcases shares with rfl | rfl <;>
    exact ready.readSwitch _ "json" Grammar.json (by decide) rfl rfl off

/-- The value stands behind an equals sign. -/
theorem readAssigned (ready : reader.Open given) (grammar : Grammar) (name : Argument)
    (option : CommandOption) {setting : Setting} (effect : option.effect = .set setting)
    {value : Argument}
    (known : reader.takeLong grammar (name ++ equals :: value) = reader.applyWith option value)
    {after : Given} (stored : given.set option setting value = .ok after) :
    reader.take grammar (dash :: dash :: (name ++ equals :: value)) = .ok { given := after } := by
  rw [ready.take_long grammar _ (by simp), known]
  simp only [applyWith, effect, ready.settle, ok_bind, stored]

/-- The value in a word of its own is held back until the next option is read. -/
theorem readSeparate (ready : reader.Open given) (grammar : Grammar) (name : Argument)
    (goesOn : name ≠ []) (option : CommandOption) {setting : Setting}
    (effect : option.effect = .set setting)
    (known : reader.takeLong grammar name = reader.applyPlain option true) {value : Argument}
    (isWord : value.head? = some dash → value = [dash]) {after : Given}
    (stored : given.set option setting value = .ok after) :
    ∃ next, [dash :: dash :: name, value].foldlM (Reader.take grammar) reader = .ok next ∧
      next.Ready after := by
  have opened : reader.take grammar (dash :: dash :: name) =
      .ok { given, held := .setting option setting none } := by
    rw [ready.take_long grammar name goesOn, known]
    simp only [applyPlain, ready.settle, effect, ok_bind]
  have waiting : Reader.take grammar { given, held := .setting option setting none } value =
      .ok { given, held := .setting option setting (some value) } :=
    take_of_word rfl grammar isWord
  refine ⟨{ given, held := .setting option setting (some value) }, ?_, ⟨stored, rfl⟩,
    fun _ held => nomatch held⟩
  simp only [List.foldlM_cons, List.foldlM_nil, opened, ok_bind, waiting]
  rfl

end Reader.Open

namespace Reader.Ready

variable {reader : Reader} {given : Given}

/-- The option for the mode. -/
def modeOption : CommandOption := ⟨"mode", none, .set .mode⟩

theorem readAssignedMode (ready : reader.Ready given) (word : ModeWord)
    (unset : given.mode = none) :
    reader.take .program (Text.bytesOf ("--mode=" ++ word.text)) =
      .ok { given := { given with mode := some word.mode } } := by
  have bytes : Text.bytesOf ("--mode=" ++ word.text) =
      dash :: dash :: (Text.bytesOf "mode" ++ equals :: Text.bytesOf word.text) := by
    simp [Text.bytesOf]
    rfl
  rw [bytes]
  exact ready.toOpen.readAssigned .program (Text.bytesOf "mode") modeOption rfl rfl
    (given.set_mode modeOption word unset)

theorem readSeparateMode (ready : reader.Ready given) (word : ModeWord)
    (unset : given.mode = none) :
    ∃ next, [Text.bytesOf "--mode", Text.bytesOf word.text].foldlM (Reader.take .program) reader =
        .ok next ∧
      next.Ready { given with mode := some word.mode } :=
  ready.toOpen.readSeparate .program (Text.bytesOf "mode") (by decide) modeOption rfl rfl
    (fun dashed => absurd dashed word.head?_ne_dash) (given.set_mode modeOption word unset)

/-- Reading an option that is new adds it to what has been given. -/
theorem read (ready : reader.Ready given) (option : WrittenOption) (new : option.IsNew given) :
    ∃ next, (option.words.map Text.bytesOf).foldlM (Reader.take .program) reader = .ok next ∧
      next.Ready (option.addTo given) := by
  have oneWord : ∀ word : String, ∀ changed : Given,
      reader.take .program (Text.bytesOf word) = .ok { given := changed } →
        ∃ next, ([word].map Text.bytesOf).foldlM (Reader.take .program) reader = .ok next ∧
          next.Ready changed := by
    intro word changed taken
    refine ⟨{ given := changed }, ?_, ready_of_nothing changed⟩
    simpa using taken
  cases option with
  | verbose short =>
    have taken := oneWord _ _ (ready.readVerbose (.inr rfl) short new)
    cases short <;> exact taken
  | json => exact oneWord "--json" _ (ready.readJson (.inr rfl) new)
  | dryRun =>
    exact oneWord "--dry-run" _
      (ready.readSwitch .program "dry-run" ⟨"dry-run", none, .turnOn .dryRun⟩ (by decide) rfl rfl
        new)
  | mode word sameWord =>
    cases sameWord with
    | true => exact oneWord ("--mode=" ++ word.text) _ (ready.readAssignedMode word new)
    | false => exact ready.readSeparateMode word new

/-- Reading options, each of them given once, gathers them all. -/
theorem readAll (options : List WrittenOption) (once : (options.map WrittenOption.name).Nodup)
    {reader : Reader} {given : Given} (ready : reader.Ready given)
    (new : ∀ option ∈ options, option.IsNew given) :
    ∃ next, ((options.flatMap WrittenOption.words).map Text.bytesOf).foldlM
        (Reader.take .program) reader = .ok next ∧
      next.Ready (options.foldl WrittenOption.addTo given) := by
  induction options generalizing reader given with
  | nil => exact ⟨reader, rfl, ready⟩
  | cons option rest ih =>
    obtain ⟨differ, restOnce⟩ := List.nodup_cons.mp once
    obtain ⟨next, taken, nextReady⟩ := ready.read option (new option (by simp))
    have restNew : ∀ other ∈ rest, other.IsNew (option.addTo given) := by
      intro other member
      refine WrittenOption.isNew_addTo (new other (by simp [member])) ?_
      intro same
      exact differ (List.mem_map.mpr ⟨other, member, same⟩)
    obtain ⟨final, gathered, finalReady⟩ := ih restOnce nextReady restNew
    refine ⟨final, ?_, finalReady⟩
    rw [List.flatMap_cons, List.map_append, List.foldlM_append, taken]
    exact gathered

end Reader.Ready

/-! ## What the options come to -/

theorem switches_foldl_addTo (options : List WrittenOption) (given : Given) (switch : Switch) :
    (options.foldl WrittenOption.addTo given).switches.contains switch =
      (given.switches.contains switch || options.any (·.turnsOn switch)) := by
  induction options generalizing given with
  | nil => simp
  | cons option rest ih =>
    rw [List.foldl_cons, ih, List.any_cons, ← Bool.or_assoc]
    congr 1
    cases option <;> cases switch <;> simp [WrittenOption.addTo, WrittenOption.turnsOn]

theorem mode_foldl_addTo (options : List WrittenOption)
    (once : (options.map WrittenOption.name).Nodup) (given : Given) :
    (options.foldl WrittenOption.addTo given).mode =
      (options.findSome? WrittenOption.mode?).or given.mode := by
  induction options generalizing given with
  | nil => simp
  | cons option rest ih =>
    obtain ⟨differ, restOnce⟩ := List.nodup_cons.mp once
    rw [List.foldl_cons, ih restOnce]
    cases option with
    | mode word sameWord =>
      have chosen : (WrittenOption.mode word sameWord :: rest).findSome? WrittenOption.mode? =
          some word.mode := rfl
      have noOther : rest.findSome? WrittenOption.mode? = none := by
        rw [List.findSome?_eq_none_iff]
        intro other member
        cases other with
        | mode otherWord otherSame => exact absurd (List.mem_map.mpr ⟨_, member, rfl⟩) differ
        | _ => rfl
      rw [chosen, noOther]
      rfl
    | _ => rfl

theorem files_foldl_addTo (options : List WrittenOption) (given : Given) :
    (options.foldl WrittenOption.addTo given).files = given.files := by
  induction options generalizing given with
  | nil => rfl
  | cons option rest ih =>
    rw [List.foldl_cons, ih]
    cases option <;> rfl

/-! ## Reading files -/

namespace Reader

theorem take_dashes {reader : Reader} (options : reader.onlyFiles = false) (grammar : Grammar) :
    reader.take grammar (Text.bytesOf "--") = .ok { reader with onlyFiles := true } := by
  have bytes : Text.bytesOf "--" = [dash, dash] := rfl
  simp [bytes, take, options]

theorem take_of_onlyFiles {reader : Reader} (only : reader.onlyFiles = true) (grammar : Grammar)
    (argument : Argument) : reader.take grammar argument = reader.takeFile grammar argument := by
  simp [take, only]

/-- The first file makes room for itself; the reader holds back all files that follow. -/
theorem takeFile_first (reader : Reader) {given : Given}
    (taken : reader.given.takeIn reader.held = .ok given)
    (noFiles : ∀ arguments, reader.held ≠ .files arguments) (argument : Argument) :
    reader.takeFile .program argument =
      .ok { reader with given, held := .files [argument] } := by
  have settled := settle_of_takeIn reader taken
  have takes : Grammar.program.takesFiles = true := rfl
  rw [takeFile, if_pos takes]
  split
  · rename_i arguments held
    exact absurd held (noFiles arguments)
  · rw [settled]
    rfl

theorem foldlM_take_files (given : Given) (arguments taken : List Argument) :
    arguments.foldlM (Reader.take .program) { given, held := .files taken, onlyFiles := true } =
      .ok { given, held := .files (taken ++ arguments), onlyFiles := true } := by
  induction arguments generalizing taken with
  | nil => simp; rfl
  | cons argument rest ih =>
    have step : Reader.take .program { given, held := .files taken, onlyFiles := true } argument =
        .ok { given, held := .files (taken ++ [argument]), onlyFiles := true } := by
      rw [take_of_onlyFiles rfl]
      rfl
    rw [List.foldlM_cons, step]
    exact (ih (taken ++ [argument])).trans (by rw [List.append_assoc, List.singleton_append])

theorem mapM_textOf (files : List String) :
    (files.map Text.bytesOf).mapM textOf = .ok files := by
  induction files with
  | nil => rfl
  | cons file rest ih =>
    rw [List.map_cons, List.mapM_cons, textOf_bytesOf, ih]
    rfl

/-- Whatever is read after two dashes is a file. -/
theorem Ready.readFiles {reader : Reader} {given : Given} (ready : reader.Ready given)
    (files : List String) :
    ∃ next, (Text.bytesOf "--" :: files.map Text.bytesOf).foldlM (Reader.take .program) reader =
        .ok next ∧
      next.settle = .ok { given := { given with files := given.files ++ files },
                          onlyFiles := true } := by
  rw [List.foldlM_cons, take_dashes ready.options]
  cases files with
  | nil =>
    refine ⟨{ reader with onlyFiles := true }, rfl, ?_⟩
    have settled := settle_of_takeIn { reader with onlyFiles := true } ready.taken
    simpa using settled
  | cons file rest =>
    have first : Reader.take .program { reader with onlyFiles := true } (Text.bytesOf file) =
        .ok { given, held := .files [Text.bytesOf file], onlyFiles := true } := by
      rw [take_of_onlyFiles rfl]
      exact takeFile_first { reader with onlyFiles := true } ready.taken ready.noFiles _
    have later := foldlM_take_files given (rest.map Text.bytesOf) [Text.bytesOf file]
    refine ⟨{ given, held := .files ((file :: rest).map Text.bytesOf), onlyFiles := true }, ?_, ?_⟩
    · rw [ok_bind, List.map_cons, List.foldlM_cons, first]
      exact later
    · refine settle_of_takeIn _ ?_
      simp only [Given.takeIn, mapM_textOf, ok_bind]

end Reader

/-! ## Whole command lines -/

theorem parse_of_dashed (first : Argument) (rest : List Argument)
    (dashed : first.head? = some dash) :
    parse (first :: rest) = parse.formatting (first :: rest) := by
  have noCommand : ∀ word : String, (Text.bytesOf word).head? ≠ some dash →
      first ≠ Text.bytesOf word := by
    rintro word plain rfl
    exact plain dashed
  rw [parse, if_neg (noCommand "install-hook" (by decide)), if_neg (noCommand "help" (by decide))]

theorem WrittenOption.exists_dashed (option : WrittenOption) :
    ∃ word rest, option.words = word :: rest ∧ (Text.bytesOf word).head? = some dash := by
  cases option with
  | verbose short => cases short <;> exact ⟨_, _, rfl, rfl⟩
  | json => exact ⟨_, _, rfl, rfl⟩
  | dryRun => exact ⟨_, _, rfl, rfl⟩
  | mode word sameWord =>
    cases sameWord with
    | true => exact ⟨_, _, rfl, by simp [Text.bytesOf]; rfl⟩
    | false => exact ⟨_, _, rfl, rfl⟩

/-- A command line of options, two dashes and files asks for formatting these files, whatever they
are called, and for what the options say. -/
theorem parse_files_after_dashes (options : List WrittenOption)
    (once : (options.map WrittenOption.name).Nodup) (files : List String) :
    parse ((options.flatMap WrittenOption.words ++ "--" :: files).map Text.bytesOf) =
      .ok
        { verbose := options.any (·.turnsOn .verbose)
          json := options.any (·.turnsOn .json)
          command := .format (options.findSome? WrittenOption.mode?)
            (options.any (·.turnsOn .dryRun)) files } := by
  have formatting :
      parse ((options.flatMap WrittenOption.words ++ "--" :: files).map Text.bytesOf) =
        parse.formatting
          ((options.flatMap WrittenOption.words ++ "--" :: files).map Text.bytesOf) := by
    cases options with
    | nil => exact parse_of_dashed _ _ rfl
    | cons option others =>
      obtain ⟨word, rest, words, dashed⟩ := option.exists_dashed
      rw [List.flatMap_cons, words]
      exact parse_of_dashed _ _ dashed
  obtain ⟨reader, gathered, ready⟩ := Reader.Ready.readAll options once
    (Reader.ready_of_nothing {}) (fun option _ => by cases option <;> simp [WrittenOption.IsNew])
  obtain ⟨final, taken, settled⟩ := ready.readFiles files
  have read : readGiven .program
      ((options.flatMap WrittenOption.words ++ "--" :: files).map Text.bytesOf) =
        .ok { options.foldl WrittenOption.addTo {} with files := files } := by
    have files' : (options.foldl WrittenOption.addTo {}).files = [] := files_foldl_addTo options {}
    rw [files', List.nil_append] at settled
    simp only [readGiven, List.map_append, List.map_cons, List.foldlM_append, gathered, ok_bind]
    rw [taken, ok_bind, settled]
    rfl
  have switches := switches_foldl_addTo options {}
  have mode := mode_foldl_addTo options once {}
  simp only [List.contains_nil, Bool.false_or, Option.or_none] at switches mode
  rw [formatting, parse.formatting, read, ok_bind]
  simp only [invocation, switches, mode]

/-- Files that are called like options and commands, behind options in several spellings. -/
theorem parse_files_after_dashes_misleading :
    parse ((["--mode", "Patterns", "-v", "--json"]
        ++ "--" :: ["", "--", "--json", "install-hook"]).map Text.bytesOf) =
      .ok ⟨true, true, .format (some .patterns) false ["", "--", "--json", "install-hook"]⟩ :=
  parse_files_after_dashes [.mode ⟨"Patterns", .patterns, rfl⟩ false, .verbose true, .json]
    (by decide) ["", "--", "--json", "install-hook"]

end StagedFormat.CommandLine
