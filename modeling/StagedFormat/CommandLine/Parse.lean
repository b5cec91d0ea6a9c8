import StagedFormat.CommandLine.Options

/-!
# Reading a command line

Arguments are read one after another.  A file name or the value of an option is first held back
and only looked at when the next option or file name is found, or at the end; so of two mistakes,
a later unknown option is reported before an unusable value.  After `--`, every argument names a
file.
-/

set_option autoImplicit false

namespace StagedFormat.CommandLine

/-- An argument: any bytes, not necessarily text. -/
abbrev Argument := List UInt8

def dash : UInt8 := 0x2D

def equals : UInt8 := 0x3D

def shown (argument : Argument) : String :=
  Text.ofBytes argument

def textOf (argument : Argument) : Except Stop String :=
  match Text.decode? argument with
  | some text => .ok (String.ofList text)
  | none => .error (.refuse .notText)

/-! ## What has been given -/

structure Given where
  switches : List Switch := []
  mode : Option PassMode := none
  glob : Option String := none
  files : List String := []
  deriving DecidableEq, Repr

inductive Held
  | nothing
  | files (arguments : List Argument)
  | setting (option : CommandOption) (setting : Setting) (value : Option Argument)
  deriving DecidableEq, Repr

namespace Given

def has (given : Given) : Setting → Bool
  | .mode => given.mode.isSome
  | .glob => given.glob.isSome

def turnOn (given : Given) (option : CommandOption) (switch : Switch) : Except Stop Given :=
  if given.switches.contains switch then .error (.refuse (.repeated option.display))
  else .ok { given with switches := switch :: given.switches }

def set (given : Given) (option : CommandOption) (setting : Setting) (value : Argument) :
    Except Stop Given := do
  if given.has setting then .error (.refuse (.repeated option.display))
  else
    let text ← textOf value
    match setting with
    | .glob => .ok { given with glob := some text }
    | .mode =>
      match PassMode.parse? text with
      | some mode => .ok { given with mode := some mode }
      | none =>
        .error (.refuse (.invalidValue text option.display (PassMode.refusal text)))

def takeIn (given : Given) : Held → Except Stop Given
  | .nothing => .ok given
  | .files arguments => do
    let names ← arguments.mapM textOf
    .ok { given with files := given.files ++ names }
  | .setting option _ none => .error (.refuse (.valueMissing option.display))
  | .setting option setting (some value) => given.set option setting value

end Given

/-! ## One argument -/

structure Reader where
  given : Given := {}
  held : Held := .nothing
  onlyFiles : Bool := false
  deriving DecidableEq, Repr

namespace Reader

def settle (reader : Reader) : Except Stop Reader := do
  let given ← reader.given.takeIn reader.held
  .ok { reader with given, held := .nothing }

/-- Applies an option without a value, which was given by its long or its short name. -/
def applyPlain (reader : Reader) (option : CommandOption) (isLongName : Bool) :
    Except Stop Reader := do
  let reader ← reader.settle
  match option.effect with
  | .turnOn switch =>
    let given ← reader.given.turnOn option switch
    .ok { reader with given }
  | .set setting => .ok { reader with held := .setting option setting none }
  | .help byLongName byShortName =>
    .error (.show (if isLongName then byLongName else byShortName))

def applyWith (reader : Reader) (option : CommandOption) (value : Argument) :
    Except Stop Reader :=
  match option.effect with
  | .set setting => do
    let reader ← reader.settle
    let given ← reader.given.set option setting value
    .ok { reader with given }
  | _ => .error (.refuse (.unexpectedValue (shown value) option.display))

def takeLong (grammar : Grammar) (reader : Reader) (body : Argument) : Except Stop Reader :=
  let name := body.takeWhile (· != equals)
  match (Text.decode? name).bind fun name => grammar.findLong? (String.ofList name) with
  | none => .error (.refuse (.unexpectedArgument ("--" ++ shown name)))
  | some option =>
    match body.drop name.length with
    | [] => reader.applyPlain option true
    | _ :: value => reader.applyWith option value

/-- Reads what follows a single dash: short names, each a character, and then perhaps bytes that
are no text. -/
def takeShorts (grammar : Grammar) (reader : Reader) : List (Option Char) → Except Stop Reader
  | [] => .ok reader
  | none :: rest =>
    .error (.refuse (.unexpectedArgument
      (String.ofList ('-' :: (none :: rest).map fun item => item.getD '\uFFFD'))))
  | some c :: rest =>
    match grammar.findShort? c with
    | none => .error (.refuse (.unexpectedArgument (String.ofList ['-', c])))
    | some option =>
      match reader.applyPlain option false with
      | .error stop => .error stop
      | .ok next => takeShorts grammar next rest

def takeFile (grammar : Grammar) (reader : Reader) (argument : Argument) : Except Stop Reader :=
  if grammar.takesFiles then
    match reader.held with
    | .files arguments => .ok { reader with held := .files (arguments ++ [argument]) }
    | _ => do
      let reader ← reader.settle
      .ok { reader with held := .files [argument] }
  else .error (.refuse (.unexpectedArgument (shown argument)))

/-- Reads an argument that does not begin with a dash: the value of an option that waits for one,
or a file. -/
def takeWord (grammar : Grammar) (reader : Reader) (argument : Argument) : Except Stop Reader :=
  match reader.held with
  | .setting option setting none =>
    .ok { reader with held := .setting option setting (some argument) }
  | _ => reader.takeFile grammar argument

def take (grammar : Grammar) (reader : Reader) (argument : Argument) : Except Stop Reader :=
  if reader.onlyFiles then reader.takeFile grammar argument
  else
    match argument with
    | [] => reader.takeWord grammar []
    | first :: body =>
      if first = dash then
        match body with
        | [] => reader.takeWord grammar argument
        | second :: name =>
          if second = dash then
            if name = [] then .ok { reader with onlyFiles := true }
            else reader.takeLong grammar name
          else reader.takeShorts grammar (Text.decode body)
      else reader.takeWord grammar argument

end Reader

def readGiven (grammar : Grammar) (arguments : List Argument) : Except Stop Given := do
  let reader ← arguments.foldlM (Reader.take grammar) {}
  let reader ← reader.settle
  .ok reader.given

/-! ## Commands -/

def defaultGlob : String := "*.java"

def invocation (given : Given) (command : Command) : Invocation where
  verbose := given.switches.contains .verbose
  json := given.switches.contains .json
  command

/-- The page that help is asked for: about the program, or about what the words name. -/
def helpFor : List Argument → Except Stop Invocation
  | [] => .error (.show .long)
  | word :: rest =>
    let page? : Option Page :=
      if word = Text.bytesOf "install-hook" then some .installHook
      else if word = Text.bytesOf "help" then some .help
      else none
    match page?, rest with
    | none, _ => .error (.refuse (.unknownCommand (shown word)))
    | some page, [] => .error (.show page)
    | some _, next :: _ => .error (.refuse (.unknownCommand (shown next)))

/-- The command that a command line is about, also if it asks for help about it. -/
def subject : List Argument → Subject
  | first :: rest =>
    if first = Text.bytesOf "install-hook" then .installHook
    else if first = Text.bytesOf "help" then
      match rest with
      | [] => .program
      | word :: _ =>
        if word = Text.bytesOf "install-hook" then .installHook
        else if word = Text.bytesOf "help" then .help
        else .program
    else .program
  | [] => .program

/-- Reads a command line.  A command other than formatting is named by the first argument. -/
def parse (arguments : List Argument) : Except Stop Invocation :=
  match arguments with
  | first :: rest =>
    if first = Text.bytesOf "install-hook" then do
      let given ← readGiven .installHook rest
      .ok (invocation given
        (.installHook (given.switches.contains .force) (given.glob.getD defaultGlob)))
    else if first = Text.bytesOf "help" then helpFor rest
    else formatting arguments
  | [] => formatting []
where
  formatting (arguments : List Argument) : Except Stop Invocation := do
    let given ← readGiven .program arguments
    .ok (invocation given
      (.format given.mode (given.switches.contains .dryRun) given.files))

end StagedFormat.CommandLine
