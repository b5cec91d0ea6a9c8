import StagedFormat.World.Process

/-!
# What a run does, step by step

A run writes to its two output channels, leaves log records, and starts programs.  Each is an
event.  `Traced α` is a result together with the events that led to it.  `Action α` comes to one of
them, depending on the programs that were started in the past; one action after another has the
events of both, in that order.
-/

set_option autoImplicit false

namespace StagedFormat

inductive LogLevel
  | debug
  | warn
  deriving DecidableEq, Repr

def LogLevel.text : LogLevel → String
  | debug => "DEBUG"
  | warn => "WARN"

structure LogRecord where
  level : LogLevel
  message : String
  deriving DecidableEq, Repr

namespace LogRecord

def debug (message : String) : LogRecord := ⟨.debug, message⟩

def warn (message : String) : LogRecord := ⟨.warn, message⟩

def text (entry : LogRecord) : String :=
  entry.level.text ++ " " ++ entry.message

/-- Level and message as lines.  All lines but the first one are indented. -/
def line (entry : LogRecord) : String :=
  String.ofList (entry.text.toList.flatMap fun c =>
    if c = '\n' then "\n    ".toList else [c]) ++ "\n"

end LogRecord

inductive Event
  | stdout (bytes : List UInt8)
  | stderr (bytes : List UInt8)
  | log (entry : LogRecord)
  /-- An attempt to start a program, and what became of it. -/
  | start (wish : Start) (outcome : Except AccessError Started)

namespace Event

def toStdout : Event → List UInt8
  | stdout bytes => bytes
  | _ => []

/-- What an event writes to the standard error, where `note` is what a log record leaves there. -/
def toStderr (note : LogRecord → String) : Event → List UInt8
  | stderr bytes => bytes
  | log entry => Text.bytesOf (note entry)
  | _ => []

def started? : Event → Option Started
  | start _ (.ok started) => some started
  | _ => none

def note? : Event → Option LogRecord
  | log entry => some entry
  | _ => none

end Event

/-- A result and the events that led to it. -/
structure Traced (α : Type) where
  value : α
  events : List Event

namespace Traced

variable {α : Type}

def stdout (traced : Traced α) : List UInt8 :=
  traced.events.flatMap Event.toStdout

/-- All that is written to the standard error, where `note` is what a log record leaves there. -/
def stderr (traced : Traced α) (note : LogRecord → String) : List UInt8 :=
  traced.events.flatMap (Event.toStderr note)

def started (traced : Traced α) : List Started :=
  traced.events.filterMap Event.started?

def notes (traced : Traced α) : List LogRecord :=
  traced.events.filterMap Event.note?

end Traced

/-- What comes of a computation behind the programs that were started before it. -/
def Action (α : Type) : Type :=
  List Started → Traced α

namespace Action

variable {α β : Type}

instance : Monad Action where
  pure value := fun _ => ⟨value, []⟩
  bind first next := fun past =>
    let begun := first past
    let done := next begun.value (past ++ begun.started)
    ⟨done.value, begun.events ++ done.events⟩

section

variable (value : α) (first : Action α) (next : α → Action β) (past : List Started)
  (note : LogRecord → String)

@[simp] theorem value_pure : ((pure value : Action α) past).value = value := rfl

@[simp] theorem events_pure : ((pure value : Action α) past).events = [] := rfl

@[simp] theorem value_bind :
    ((first >>= next) past).value =
      (next (first past).value (past ++ (first past).started)).value := rfl

@[simp] theorem events_bind :
    ((first >>= next) past).events =
      (first past).events ++ (next (first past).value (past ++ (first past).started)).events := rfl

@[simp] theorem stdout_pure : ((pure value : Action α) past).stdout = [] := rfl

@[simp] theorem stdout_bind :
    ((first >>= next) past).stdout =
      (first past).stdout ++ (next (first past).value (past ++ (first past).started)).stdout := by
  simp [Traced.stdout]

@[simp] theorem stderr_pure : ((pure value : Action α) past).stderr note = [] := rfl

@[simp] theorem stderr_bind :
    ((first >>= next) past).stderr note = (first past).stderr note ++
      (next (first past).value (past ++ (first past).started)).stderr note := by
  simp [Traced.stderr]

@[simp] theorem started_pure : ((pure value : Action α) past).started = [] := rfl

@[simp] theorem started_bind :
    ((first >>= next) past).started =
      (first past).started ++ (next (first past).value (past ++ (first past).started)).started := by
  simp [Traced.started]

@[simp] theorem notes_pure : ((pure value : Action α) past).notes = [] := rfl

@[simp] theorem notes_bind :
    ((first >>= next) past).notes =
      (first past).notes ++ (next (first past).value (past ++ (first past).started)).notes := by
  simp [Traced.notes]

end

instance : LawfulMonad Action :=
  LawfulMonad.mk' Action
    (fun action => by
      funext past
      exact congrArg (Traced.mk (action past).value) (List.append_nil _))
    (fun value next => by
      funext past
      simp [bind, pure, Traced.started])
    (fun first second third => by
      funext past
      simp [bind, Traced.started])

def emit (event : Event) : Action Unit := fun _ => ⟨(), [event]⟩

def log (entry : LogRecord) : Action Unit := emit (.log entry)

def print (text : String) : Action Unit := emit (.stdout (Text.bytesOf text))

/-- Starts a program.  The answer is what it did, or why it could not be started. -/
def start (host : Host) (wish : Start) : Action (Except AccessError Completion) := fun past =>
  let outcome := host.start past wish
  ⟨outcome.map Prod.snd, [.start wish (outcome.map Prod.fst)]⟩

end Action

end StagedFormat
