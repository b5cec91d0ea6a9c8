import StagedFormat.Proofs.FilesAfterDashes
import StagedFormat.Proofs.OneDocument

/-!
# The command comes first

`install-hook` is a command as the first argument of a command line.  Its options come behind it, in
any order.  Behind an option, the same word is the name of a file, and an option that only the
command has is refused.
-/

set_option autoImplicit false

namespace StagedFormat.CommandLine

/-! ## Options of the command -/

/-- A glob and how it is written: in the word of the option, or in the next one, where only a single
dash can begin with a dash. -/
structure GlobWord where
  text : String
  sameWord : Bool
  readable : sameWord = false → (Text.bytesOf text).head? = some dash → Text.bytesOf text = [dash]

/-- An option as it can stand behind `install-hook`, in each way in which it can be written. -/
inductive HookOption
  | verbose (short : Bool)
  | json
  | force (short : Bool)
  /-- Both short names in one word. -/
  | forceAndVerbose (forceFirst : Bool)
  | glob (word : GlobWord)

namespace HookOption

def words : HookOption → List String
  | verbose short => if short then ["-v"] else ["--verbose"]
  | json => ["--json"]
  | force short => if short then ["-f"] else ["--force"]
  | forceAndVerbose forceFirst => if forceFirst then ["-fv"] else ["-vf"]
  | glob word => if word.sameWord then ["--glob=" ++ word.text] else ["--glob", word.text]

/-- The switches that an option turns on, in the order in which it names them. -/
def switches : HookOption → List Switch
  | verbose _ => [.verbose]
  | json => [.json]
  | force _ => [.force]
  | forceAndVerbose forceFirst => if forceFirst then [.force, .verbose] else [.verbose, .force]
  | glob _ => []

def glob? : HookOption → Option String
  | glob word => some word.text
  | _ => none

/-- The name by which an option is refused where there is no command. -/
def foreignName? : HookOption → Option String
  | force short => some (if short then "-f" else "--force")
  | forceAndVerbose _ => some "-f"
  | glob _ => some "--glob"
  | _ => none

def isGlobal (option : HookOption) : Bool :=
  option.foreignName?.isNone

structure Once (options : List HookOption) : Prop where
  switches : (options.flatMap switches).Nodup
  glob : (options.filterMap glob?).length ≤ 1

theorem Once.perm {options other : List HookOption} (once : Once options)
    (perm : options.Perm other) : Once other where
  switches := (perm.flatMap_right HookOption.switches).nodup_iff.mp once.switches
  glob := (perm.filterMap glob?).length_eq ▸ once.glob

theorem Once.left {options other : List HookOption} (once : Once (options ++ other)) :
    Once options where
  switches := by
    have all := once.switches
    rw [List.flatMap_append] at all
    exact (List.nodup_append.mp all).1
  glob := by
    have all := once.glob
    rw [List.filterMap_append, List.length_append] at all
    omega

/-- The glob that is given does not depend on the order. -/
theorem Once.findSome?_glob?_eq {options other : List HookOption} (once : Once options)
    (perm : options.Perm other) : other.findSome? glob? = options.findSome? glob? := by
  have globs : (options.filterMap glob?).Perm (other.filterMap glob?) := perm.filterMap glob?
  rw [← List.head?_filterMap, ← List.head?_filterMap]
  match shape : options.filterMap glob? with
  | [] => rw [shape, List.nil_perm] at globs; rw [globs]
  | [text] => rw [shape, List.singleton_perm] at globs; rw [← globs]
  | first :: second :: rest =>
    have atMostOne := once.glob
    simp [shape] at atMostOne

def addTo (given : Given) (option : HookOption) : Given :=
  { given with
    switches := option.switches.reverse ++ given.switches
    glob := option.glob?.or given.glob }

structure IsNew (given : Given) (option : HookOption) : Prop where
  switches : ∀ switch ∈ option.switches, switch ∉ given.switches
  glob : option.glob? ≠ none → given.glob = none

end HookOption

/-- What has been given is what the options say, and the files. -/
structure Given.Tells (given : Given) (options : List HookOption) (files : List String) : Prop where
  switches : ∀ switch, switch ∈ given.switches ↔ switch ∈ options.flatMap HookOption.switches
  glob : given.glob = options.findSome? HookOption.glob?
  mode : given.mode = none
  files : given.files = files

namespace Given.Tells

variable {given : Given} {done : List HookOption} {files : List String} {option : HookOption}

theorem nothing : Given.Tells {} [] [] :=
  ⟨fun _ => Iff.rfl, rfl, rfl, rfl⟩

theorem isNew (tells : given.Tells done files) (once : HookOption.Once (done ++ [option])) :
    option.IsNew given where
  switches := by
    intro switch named already
    have apart := once.switches
    rw [List.flatMap_append, List.nodup_append] at apart
    exact apart.2.2 switch ((tells.switches switch).mp already) switch (by simpa using named) rfl
  glob := by
    intro named
    have atMostOne := once.glob
    obtain ⟨text, isGlob⟩ := Option.ne_none_iff_exists'.mp named
    rw [List.filterMap_append, List.filterMap_cons, isGlob, List.length_append] at atMostOne
    have noOther : done.filterMap HookOption.glob? = [] :=
      List.eq_nil_of_length_eq_zero (by simpa using atMostOne)
    rw [tells.glob, ← List.head?_filterMap, noOther, List.head?_nil]

theorem addTo (tells : given.Tells done files) (new : option.IsNew given) :
    (option.addTo given).Tells (done ++ [option]) files where
  switches switch := by
    simp [HookOption.addTo, tells.switches switch, or_comm]
  glob := by
    rw [List.findSome?_append, ← tells.glob]
    cases isGlob : option.glob? with
    | none => simp [HookOption.addTo, isGlob]
    | some text => simp [HookOption.addTo, isGlob, new.glob (by simp [isGlob])]
  mode := tells.mode
  files := tells.files

theorem addFile (tells : given.Tells done files) (file : String) :
    { given with files := given.files ++ [file] : Given }.Tells done (files ++ [file]) :=
  ⟨tells.switches, tells.glob, tells.mode, by rw [tells.files]⟩

end Given.Tells

/-! ## Reading the options -/

def forceOption : CommandOption := ⟨"force", some 'f', .turnOn .force⟩

def globOption : CommandOption := ⟨"glob", none, .set .glob⟩

theorem Given.set_glob (given : Given) (text : String) (unset : given.glob = none) :
    given.set globOption .glob (Text.bytesOf text) = .ok { given with glob := some text } := by
  have free : given.has .glob = false := by rw [Given.has, unset, Option.isSome_none]
  simp only [Given.set, free, Bool.false_eq_true, if_false, textOf_bytesOf, ok_bind]

theorem bytesOf_globAssigned (text : String) :
    Text.bytesOf ("--glob=" ++ text) =
      dash :: dash :: (Text.bytesOf "glob" ++ equals :: Text.bytesOf text) := by
  simp [Text.bytesOf]
  rfl

namespace Reader.Open

variable {reader : Reader} {given : Given} {grammar : Grammar} {option : HookOption}
  {done : List HookOption} {files : List String}

theorem readGlob (opened : reader.Open given) (word : GlobWord) (unset : given.glob = none) :
    ∃ next, ((HookOption.glob word).words.map Text.bytesOf).foldlM (Reader.take .installHook)
        reader = .ok next ∧
      next.Open { given with glob := some word.text } := by
  obtain ⟨text, sameWord, readable⟩ := word
  have stored := given.set_glob text unset
  cases sameWord with
  | true =>
    have taken := opened.readAssigned .installHook (Text.bytesOf "glob") globOption rfl rfl stored
    refine ⟨{ given := { given with glob := some text } }, ?_, rfl, rfl⟩
    simpa [HookOption.words, bytesOf_globAssigned] using taken
  | false =>
    obtain ⟨next, taken, ready⟩ := opened.readSeparate .installHook (Text.bytesOf "glob")
      (by decide) globOption rfl rfl (readable rfl) stored
    exact ⟨next, taken, ready.toOpen⟩

/-- Both short names of a word are read one after the other. -/
theorem readBoth (opened : reader.Open given) (forceFirst : Bool)
    (new : (HookOption.forceAndVerbose forceFirst).IsNew given) :
    reader.take .installHook (Text.bytesOf (if forceFirst then "-fv" else "-vf")) =
      .ok { given := (HookOption.forceAndVerbose forceFirst).addTo given } := by
  have force : .force ∉ given.switches :=
    new.switches .force (by cases forceFirst <;> simp [HookOption.switches])
  have verbose : .verbose ∉ given.switches :=
    new.switches .verbose (by cases forceFirst <;> simp [HookOption.switches])
  have between : ∀ changed : Given, Open { given := changed } changed := fun _ => ⟨rfl, rfl⟩
  cases forceFirst with
  | true =>
    have letters : Text.decode [0x66, 0x76] = [some 'f', some 'v'] := by decide
    refine (opened.take_short .installHook [0x66, 0x76] (by simp) (by decide)).trans ?_
    rw [letters, opened.readLetter .installHook 'f' forceOption rfl rfl force,
      (between _).readLetter .installHook 'v' Grammar.verbose rfl rfl (by simpa using verbose)]
    rfl
  | false =>
    have letters : Text.decode [0x76, 0x66] = [some 'v', some 'f'] := by decide
    refine (opened.take_short .installHook [0x76, 0x66] (by simp) (by decide)).trans ?_
    rw [letters, opened.readLetter .installHook 'v' Grammar.verbose rfl rfl verbose,
      (between _).readLetter .installHook 'f' forceOption rfl rfl (by simpa using force)]
    rfl

/-- The command knows all the options, and the program those that they share. -/
def Knows (grammar : Grammar) (option : HookOption) : Prop :=
  grammar = .installHook ∨ grammar = .program ∧ option.isGlobal = true

theorem read (opened : reader.Open given) (knows : Knows grammar option)
    (new : option.IsNew given) :
    ∃ next, (option.words.map Text.bytesOf).foldlM (Reader.take grammar) reader = .ok next ∧
      next.Open (option.addTo given) := by
  have oneWord : ∀ word : String,
      reader.take grammar (Text.bytesOf word) = .ok { given := option.addTo given } →
        ∃ next, ([word].map Text.bytesOf).foldlM (Reader.take grammar) reader = .ok next ∧
          next.Open (option.addTo given) := by
    intro word taken
    refine ⟨{ given := option.addTo given }, ?_, rfl, rfl⟩
    simpa using taken
  cases option with
  | verbose short =>
    have off := new.switches .verbose (by simp [HookOption.switches])
    have taken := oneWord _ (opened.readVerbose (knows.imp_right And.left) short off)
    cases short <;> exact taken
  | json =>
    have off := new.switches .json (by simp [HookOption.switches])
    exact oneWord "--json" (opened.readJson (knows.imp_right And.left) off)
  | force short =>
    obtain rfl := knows.resolve_right (by simp [HookOption.isGlobal, HookOption.foreignName?])
    have off := new.switches .force (by simp [HookOption.switches])
    cases short with
    | true =>
      exact oneWord "-f" (opened.readShort _ 0x66 'f' (by decide) rfl forceOption rfl rfl off)
    | false =>
      exact oneWord "--force"
        (opened.readSwitch _ "force" forceOption (by decide) rfl rfl off)
  | forceAndVerbose forceFirst =>
    obtain rfl := knows.resolve_right (by simp [HookOption.isGlobal, HookOption.foreignName?])
    have taken := oneWord _ (opened.readBoth forceFirst new)
    cases forceFirst <;> exact taken
  | glob word =>
    obtain rfl := knows.resolve_right (by simp [HookOption.isGlobal, HookOption.foreignName?])
    exact opened.readGlob word (new.glob (by simp [HookOption.glob?]))

theorem readAll (opened : reader.Open given) (options : List HookOption)
    (knows : ∀ option ∈ options, Knows grammar option) (tells : given.Tells done files)
    (once : HookOption.Once (done ++ options)) :
    ∃ next after, ((options.flatMap HookOption.words).map Text.bytesOf).foldlM
        (Reader.take grammar) reader = .ok next ∧
      next.Open after ∧ after.Tells (done ++ options) files := by
  induction options generalizing reader given done with
  | nil => exact ⟨reader, given, rfl, opened, by simpa using tells⟩
  | cons option rest ih =>
    -- The option goes over from those that are left to those that are done.
    rw [List.append_cons] at once ⊢
    have new := tells.isNew once.left
    obtain ⟨next, taken, nextOpen⟩ := opened.read (knows option (by simp)) new
    obtain ⟨final, after, gathered, finalOpen, told⟩ := ih nextOpen
      (fun other member => knows other (by simp [member])) (tells.addTo new) once
    refine ⟨final, after, ?_, finalOpen, told⟩
    rw [List.flatMap_cons, List.map_append, List.foldlM_append, taken]
    exact gathered

theorem readFile (opened : reader.Open given) (file : String)
    (plain : (Text.bytesOf file).head? ≠ some dash) :
    ∃ next, Reader.take .program reader (Text.bytesOf file) = .ok next ∧
      next.Open { given with files := given.files ++ [file] } := by
  have taken := opened.taken
  have asFile : reader.takeWord .program (Text.bytesOf file) =
      reader.takeFile .program (Text.bytesOf file) := by
    -- An open reader holds back no option that still waits for its value.
    unfold takeWord
    split
    · rename_i waiting
      rw [waiting] at taken
      cases taken
    · rfl
  have stored : given.takeIn (.files [Text.bytesOf file]) =
      .ok { given with files := given.files ++ [file] } := by
    simp only [Given.takeIn, List.mapM_cons, List.mapM_nil, textOf_bytesOf, ok_bind]
    rfl
  rw [take_of_word opened.options _ (fun dashed => absurd dashed plain), asFile]
  by_cases noFiles : ∀ arguments, reader.held ≠ .files arguments
  · exact ⟨_, takeFile_first reader taken noFiles _, stored, opened.options⟩
  · obtain ⟨arguments, held⟩ := by simpa using noFiles
    refine ⟨{ reader with held := .files (arguments ++ [Text.bytesOf file]) }, ?_, ?_,
      opened.options⟩
    · simp only [takeFile, held]
      rfl
    · rw [held] at taken
      cases texts : arguments.mapM textOf with
      | error stop => simp [Given.takeIn, texts, bind, Except.bind] at taken
      | ok names =>
        obtain rfl : { reader.given with files := reader.given.files ++ names } = given := by
          simpa [Given.takeIn, texts, bind, Except.bind] using taken
        simp [Given.takeIn, texts, List.mapM_append, textOf_bytesOf, bind, Except.bind, pure,
          Except.pure]

theorem refuse (opened : reader.Open given) (new : option.IsNew given) {name : String}
    (foreign : option.foreignName? = some name) :
    (option.words.map Text.bytesOf).foldlM (Reader.take .program) reader =
      .error (.refuse (.unexpectedArgument name)) := by
  have atFirst : ∀ first rest stop, reader.take .program first = .error stop →
      (first :: rest).foldlM (Reader.take .program) reader = .error stop := by
    intro first rest stop refused
    rw [List.foldlM_cons, refused]
    rfl
  cases option with
  | verbose short => cases foreign
  | json => cases foreign
  | force short =>
    cases short with
    | true =>
      cases foreign
      exact atFirst _ _ _ (opened.take_short .program [0x66] (by simp) (by decide))
    | false =>
      cases foreign
      exact atFirst _ _ _ (opened.take_long .program (Text.bytesOf "force") (by decide))
  | forceAndVerbose forceFirst =>
    cases foreign
    cases forceFirst with
    | true => exact atFirst _ _ _ (opened.take_short .program [0x66, 0x76] (by simp) (by decide))
    | false =>
      have verbose : .verbose ∉ given.switches :=
        new.switches .verbose (by simp [HookOption.switches])
      have letters : Text.decode [0x76, 0x66] = [some 'v', some 'f'] := by decide
      refine atFirst _ _ _ ?_
      refine (opened.take_short .program [0x76, 0x66] (by simp) (by decide)).trans ?_
      rw [letters, opened.readLetter .program 'v' Grammar.verbose rfl rfl verbose]
      rfl
  | glob word =>
    cases foreign
    obtain ⟨text, sameWord, readable⟩ := word
    cases sameWord with
    | true =>
      refine atFirst _ _ _ ?_
      rw [bytesOf_globAssigned]
      exact opened.take_long .program _ (by simp)
    | false =>
      exact atFirst _ _ _ (opened.take_long .program (Text.bytesOf "glob") (by decide))

theorem refuseAll (opened : reader.Open given) (options : List HookOption)
    (tells : given.Tells done files) (once : HookOption.Once (done ++ options)) {name : String}
    (foreign : options.findSome? HookOption.foreignName? = some name) :
    ((options.flatMap HookOption.words).map Text.bytesOf).foldlM (Reader.take .program) reader =
      .error (.refuse (.unexpectedArgument name)) := by
  induction options generalizing reader given done with
  | nil => cases foreign
  | cons option rest ih =>
    rw [List.append_cons] at once
    have new := tells.isNew once.left
    rw [List.flatMap_cons, List.map_append, List.foldlM_append]
    cases isForeign : option.foreignName? with
    | none =>
      have isGlobal : option.isGlobal = true := by simp [HookOption.isGlobal, isForeign]
      obtain ⟨next, taken, nextOpen⟩ := opened.read (.inr ⟨rfl, isGlobal⟩) new
      rw [taken]
      exact ih nextOpen (tells.addTo new) once (by simpa [isForeign] using foreign)
    | some first =>
      obtain rfl : first = name := by simpa [isForeign] using foreign
      rw [opened.refuse new isForeign]
      rfl

end Reader.Open

/-! ## Whole command lines -/

/-- A command line with options on both sides of the command. -/
def installHookLine (front back : List HookOption) : List Argument :=
  (front.flatMap HookOption.words ++ "install-hook" :: back.flatMap HookOption.words).map
    Text.bytesOf

def gives (options : List HookOption) (switch : Switch) : Bool :=
  (options.flatMap HookOption.switches).contains switch

theorem gives_dryRun (options : List HookOption) : gives options .dryRun = false := by
  have never : ∀ option : HookOption, .dryRun ∉ option.switches := by
    intro option
    cases option with
    | forceAndVerbose forceFirst => cases forceFirst <;> simp [HookOption.switches]
    | _ => simp [HookOption.switches]
  rw [gives, ← Bool.not_eq_true, List.contains_iff_mem, List.mem_flatMap]
  rintro ⟨option, -, named⟩
  exact never option named

/-- A command, and what the options say about its output. -/
def asks (options : List HookOption) (command : Command) : Invocation where
  verbose := gives options .verbose
  json := gives options .json
  command

theorem Given.Tells.contains_switches {given : Given} {options : List HookOption}
    {files : List String} (tells : given.Tells options files) (switch : Switch) :
    given.switches.contains switch = gives options switch := by
  rw [gives, Bool.eq_iff_iff, List.contains_iff_mem, List.contains_iff_mem,
    tells.switches switch]

theorem HookOption.exists_dashed (option : HookOption) :
    ∃ word rest, option.words = word :: rest ∧ (Text.bytesOf word).head? = some dash := by
  cases option with
  | verbose short => cases short <;> exact ⟨_, _, rfl, rfl⟩
  | json => exact ⟨_, _, rfl, rfl⟩
  | force short => cases short <;> exact ⟨_, _, rfl, rfl⟩
  | forceAndVerbose forceFirst => cases forceFirst <;> exact ⟨_, _, rfl, rfl⟩
  | glob word =>
    obtain ⟨text, sameWord, readable⟩ := word
    cases sameWord with
    | true => exact ⟨_, _, rfl, by rw [bytesOf_globAssigned]; rfl⟩
    | false => exact ⟨_, _, rfl, rfl⟩

theorem parse_command (options : List HookOption) (once : HookOption.Once options) :
    parse (installHookLine [] options) =
      .ok (asks options (.installHook (gives options .force)
        ((options.findSome? HookOption.glob?).getD defaultGlob))) := by
  have opened : Reader.Open {} {} := ⟨rfl, rfl⟩
  obtain ⟨next, given, gathered, nextOpen, tells⟩ :=
    opened.readAll options (fun _ _ => .inl rfl) .nothing once
  have read : readGiven .installHook ((options.flatMap HookOption.words).map Text.bytesOf) =
      .ok given := by
    rw [readGiven, gathered, ok_bind, nextOpen.settle]
    rfl
  have isCommand : parse (installHookLine [] options) = (do
      let given ← readGiven .installHook ((options.flatMap HookOption.words).map Text.bytesOf)
      .ok (invocation given
        (.installHook (given.switches.contains .force) (given.glob.getD defaultGlob)))) := rfl
  rw [isCommand, read, ok_bind, tells.glob]
  simp only [invocation, asks, tells.contains_switches, List.nil_append]

section Behind

variable {front back : List HookOption}

theorem readGiven_behind (shared : ∀ option ∈ front, option.isGlobal = true)
    (once : HookOption.Once (front ++ back)) :
    ∃ next given, next.Open given ∧ given.Tells front ["install-hook"] ∧
      readGiven .program (installHookLine front back) = (do
        let reader ← ((back.flatMap HookOption.words).map Text.bytesOf).foldlM
          (Reader.take .program) next
        let reader ← reader.settle
        .ok reader.given) := by
  have opened : Reader.Open {} {} := ⟨rfl, rfl⟩
  obtain ⟨reader, given, gathered, readerOpen, tells⟩ := opened.readAll front
    (fun option member => .inr ⟨rfl, shared option member⟩) .nothing once.left
  obtain ⟨next, taken, nextOpen⟩ := readerOpen.readFile "install-hook" (by decide)
  refine ⟨next, _, nextOpen, tells.addFile "install-hook", ?_⟩
  rw [readGiven, installHookLine, List.map_append, List.foldlM_append, gathered, ok_bind,
    List.map_cons, List.foldlM_cons, taken, ok_bind]

theorem parse_of_front (someOption : front ≠ []) :
    parse (installHookLine front back) = parse.formatting (installHookLine front back) := by
  obtain ⟨option, others, rfl⟩ := List.exists_cons_of_ne_nil someOption
  obtain ⟨word, rest, words, dashed⟩ := option.exists_dashed
  rw [installHookLine, List.flatMap_cons, words]
  exact parse_of_dashed _ _ dashed

theorem parse_behind (someOption : front ≠ [])
    (shared : ∀ option ∈ front, option.isGlobal = true)
    (once : HookOption.Once (front ++ back))
    (known : back.findSome? HookOption.foreignName? = none) :
    parse (installHookLine front back) =
      .ok (asks (front ++ back) (.format none false ["install-hook"])) := by
  obtain ⟨next, given, nextOpen, tells, read⟩ := readGiven_behind shared once
  have sharedBack : ∀ option ∈ back, option.isGlobal = true := by
    intro option member
    have unknown := List.findSome?_eq_none_iff.mp known option member
    simp [HookOption.isGlobal, unknown]
  obtain ⟨final, after, gathered, finalOpen, told⟩ := nextOpen.readAll back
    (fun option member => .inr ⟨rfl, sharedBack option member⟩) tells once
  rw [gathered, ok_bind, finalOpen.settle, ok_bind] at read
  rw [parse_of_front someOption, parse.formatting, read, ok_bind]
  simp only [invocation, asks, told.contains_switches, told.mode, told.files, gives_dryRun]

theorem parse_behind_foreign (someOption : front ≠ [])
    (shared : ∀ option ∈ front, option.isGlobal = true)
    (once : HookOption.Once (front ++ back)) {name : String}
    (foreign : back.findSome? HookOption.foreignName? = some name) :
    parse (installHookLine front back) = .error (.refuse (.unexpectedArgument name)) := by
  obtain ⟨next, given, nextOpen, tells, read⟩ := readGiven_behind shared once
  rw [nextOpen.refuseAll back tells once foreign] at read
  rw [parse_of_front someOption, parse.formatting, read]
  rfl

end Behind

end StagedFormat.CommandLine

namespace StagedFormat.Run

open CommandLine

/-- Options behind the command lead to one run, in whichever order and way they are written.  Behind
an option, no command is read: what follows is a run that formats a file called `install-hook`, or a
usage error if an option is given that only the command has. -/
theorem program_installHookLine (machine : Machine) (front back : List HookOption)
    (shared : ∀ option ∈ front, option.isGlobal = true)
    (once : HookOption.Once (front ++ back)) :
    (front = [] →
      program machine (installHookLine front back) =
        invoke machine (asks back (.installHook (gives back .force)
          ((back.findSome? HookOption.glob?).getD "*.java"))) [] ∧
      ∀ other, back.Perm other →
        program machine (installHookLine front other) =
          program machine (installHookLine front back)) ∧
    (front ≠ [] → back.findSome? HookOption.foreignName? = none →
      program machine (installHookLine front back) =
        invoke machine (asks (front ++ back) (.format none false ["install-hook"])) []) ∧
    (front ≠ [] → ∀ name, back.findSome? HookOption.foreignName? = some name →
      parse (installHookLine front back) = .error (.refuse (.unexpectedArgument name)) ∧
      (program machine (installHookLine front back)).value = ⟨2, machine.host.tree, false⟩ ∧
      (program machine (installHookLine front back)).attempts = []) := by
  refine ⟨?_, ?_, ?_⟩
  · rintro rfl
    have run : ∀ options, HookOption.Once options →
        program machine (installHookLine [] options) =
          invoke machine (asks options (.installHook (gives options .force)
            ((options.findSome? HookOption.glob?).getD "*.java"))) [] := by
      intro options once
      rw [program, obey, parse_command options once]
      rfl
    refine ⟨run back once, fun other perm => ?_⟩
    have same : ∀ switch, gives other switch = gives back switch := by
      intro switch
      rw [gives, gives, Bool.eq_iff_iff, List.contains_iff_mem, List.contains_iff_mem]
      exact (perm.flatMap_right HookOption.switches).mem_iff.symm
    rw [run other (HookOption.Once.perm once perm), run back once,
      HookOption.Once.findSome?_glob?_eq once perm]
    simp only [asks, same, List.nil_append]
  · intro someOption known
    rw [program, obey, parse_behind someOption shared once known]
  · intro someOption name foreign
    have refused := parse_behind_foreign someOption shared once foreign
    refine ⟨refused, ?_, ?_⟩
    · rw [program, obey, refused]
      rfl
    · rw [program, obey, refused]
      rfl

theorem program_installHookLine_failing :
    program failingMachine (["install-hook", "--glob=*.kt", "-fv", "--json"].map Text.bytesOf) =
      invoke failingMachine ⟨true, true, .installHook true "*.kt"⟩ [] ∧
    program failingMachine (["--json", "install-hook", "-v"].map Text.bytesOf) =
      invoke failingMachine ⟨true, true, .format none false ["install-hook"]⟩ [] ∧
    (program failingMachine (["--json", "install-hook", "--force"].map Text.bytesOf)).value =
      ⟨2, failingMachine.host.tree, false⟩ := by
  have behind := program_installHookLine failingMachine []
    [.glob ⟨"*.kt", true, nofun⟩, .forceAndVerbose true, .json] (by simp)
    ⟨by decide, by decide⟩
  have between := program_installHookLine failingMachine [.json] [.verbose true] (by decide)
    ⟨by decide, by decide⟩
  have foreign := program_installHookLine failingMachine [.json] [.force false] (by decide)
    ⟨by decide, by decide⟩
  exact ⟨(behind.1 rfl).1, between.2.1 (by simp) rfl, (foreign.2.2 (by simp) "--force" rfl).2.1⟩

/-- With the option in front no hook is written, and with the option behind there is one. -/
theorem program_json_installHook :
    parse (["--json", "install-hook"].map Text.bytesOf) =
      .ok ⟨false, true, .format none false ["install-hook"]⟩ ∧
    parse (["install-hook", "--json"].map Text.bytesOf) =
      .ok ⟨false, true, .installHook false "*.java"⟩ ∧
    (program failingMachine (["--json", "install-hook"].map Text.bytesOf)).value.tree.look
        (.of [Text.bytesOf "pre-commit"]) = none ∧
    (program failingMachine (["install-hook", "--json"].map Text.bytesOf)).value.tree.look
        (.of [Text.bytesOf "pre-commit"]) ≠ none :=
  ⟨rfl, rfl, by decide +kernel, by decide +kernel⟩

end StagedFormat.Run
