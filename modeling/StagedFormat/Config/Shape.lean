import StagedFormat.Config.Basic
import StagedFormat.Text.Quoted
import StagedFormat.Toml.Value

/-!
# Configurations as TOML values

The file of a repository is a TOML document.  This module reads the values of a document as parts
of a configuration, and says what is wrong with a value that has another shape.  The keys of a
table are taken in their order, and the first thing that is wrong is reported.
-/

set_option autoImplicit false

namespace StagedFormat.Config

open Toml (Value)

inductive ShapeError
  | unexpected (found : Value) (expected : String)
  | unknownField (name : String) (known : List String)
  | unknownVariant (name : String) (known : List String)
  /-- A choice is neither a string nor a table. -/
  | notAChoice
  | noChoice
  | severalChoices
  /-- A choice is followed by a table with entries. -/
  | tableNotEmpty
  | arrayNotEmpty
  /-- A choice is followed by something that is neither a table nor an array. -/
  | notATable (found : Value)

/-- How messages show a whole number: one that needs more than 64 bits with the type that holds
it, which has 128 bits with or without a sign. -/
def describeInteger (number : Int) : String :=
  let shown := "integer `" ++ toString number ++ "`"
  if -Int.pow 2 63 ≤ number ∧ number < Int.pow 2 64 then shown
  else if number < Int.pow 2 127 then shown ++ " as i128"
  else shown ++ " as u128"

/-- A value with its kind, as messages show it.  A date or a time passes for a table. -/
def describe : Value → String
  | .string text => "string " ++ Text.quote text
  | .integer number => describeInteger number
  | .float number => "floating point `" ++ number.text ++ "`"
  | .hugeFloat => "floating point"
  | .boolean flag => "boolean `" ++ (if flag then "true" else "false") ++ "`"
  | .dateTime => "map"
  | .array _ => "sequence"
  | .table _ => "map"

def kind : Value → String
  | .string _ => "string"
  | .integer _ => "integer"
  | .float _ | .hugeFloat => "float"
  | .boolean _ => "boolean"
  | .dateTime => "datetime"
  | .array _ => "array"
  | .table _ => "table"

def listing (known : List String) : String :=
  match known.map fun name => "`" ++ name ++ "`" with
  | [first, second] => first ++ " or " ++ second
  | names => "one of " ++ ", ".intercalate names

/-- What messages say about a number that is too large to be shown. -/
def overflow? : Value → Option String
  | .integer number =>
    if -Int.pow 2 127 ≤ number ∧ number < Int.pow 2 128 then none
    else some "integer number overflowed"
  | .hugeFloat => some "floating-point number overflowed"
  | _ => none

def ShapeError.message : ShapeError → String
  | unexpected found expected =>
    (overflow? found).getD ("invalid type: " ++ describe found ++ ", expected " ++ expected)
  | unknownField name known => "unknown field `" ++ name ++ "`, expected " ++ listing known
  | unknownVariant name known => "unknown variant `" ++ name ++ "`, expected " ++ listing known
  | notAChoice => "wanted string or table"
  | noChoice => "wanted exactly 1 element, found 0 elements"
  | severalChoices => "wanted exactly 1 element, more than 1 element"
  | tableNotEmpty => "expected empty table"
  | arrayNotEmpty => "expected empty array"
  | notATable found => "expected table, found " ++ kind found

/-! ## Single values -/

def readString : Value → Except ShapeError String
  | .string text => .ok text
  | other => .error (.unexpected other "a string")

def readBoolean : Value → Except ShapeError Bool
  | .boolean flag => .ok flag
  | other => .error (.unexpected other "a boolean")

def readStrings : Value → Except ShapeError (List String)
  | .array items => items.mapM readString
  | other => .error (.unexpected other "a sequence")

def findChoice {α : Type} (choices : List (String × α)) (name : String) : Except ShapeError α :=
  match choices.lookup name with
  | some choice => .ok choice
  | none => .error (.unknownVariant name (choices.map Prod.fst))

/-- Reads one of several choices: its name, or a table that has its name as the only key and
nothing behind it. -/
def readChoice {α : Type} (choices : List (String × α)) : Value → Except ShapeError α
  | .string name => findChoice choices name
  | .table [] => .error .noChoice
  | .table [(name, payload)] => do
    let choice ← findChoice choices name
    match payload with
    | .table [] | .array [] => .ok choice
    | .table _ => .error .tableNotEmpty
    | .array _ => .error .arrayNotEmpty
    | other => .error (.notATable other)
  | .table _ => .error .severalChoices
  | _ => .error .notAChoice

/-! ## Records -/

abbrev Fields (ρ : Type) := List (String × (Value → ρ → Except ShapeError ρ))

def field {α ρ : Type} (name : String) (read : Value → Except ShapeError α) (set : ρ → α → ρ) :
    String × (Value → ρ → Except ShapeError ρ) :=
  (name, fun value record => (read value).map (set record))

def setField {ρ : Type} (fields : Fields ρ) (record : ρ) (entry : String × Value) :
    Except ShapeError ρ :=
  match fields.lookup entry.1 with
  | some set => set entry.2 record
  | none => .error (.unknownField entry.1 (fields.map Prod.fst))

/-- The key under which a date or a time shows when it passes for a table. -/
def dateTimeKey : String := "$__toml_private_datetime"

/-- Reads a record that has defaults: from a table by the names of the fields, or from an array in
the order of the fields, where items that are too many do not matter. -/
def readRecord {ρ : Type} (shape : String) (fields : Fields ρ) (defaults : ρ) :
    Value → Except ShapeError ρ
  | .table entries => entries.foldlM (setField fields) defaults
  | .array items =>
    (fields.zip items).foldlM (fun record entry => entry.1.2 entry.2 record) defaults
  | .dateTime => .error (.unknownField dateTimeKey (fields.map Prod.fst))
  | other => .error (.unexpected other ("struct " ++ shape))

/-! ## The configuration -/

def modes : List (String × PassMode) :=
  [PassMode.paths, PassMode.patterns].map fun mode => (mode.name, mode)

def policies : List (String × WhitespacePolicy) :=
  [WhitespacePolicy.atLineEnd, WhitespacePolicy.anywhere].map fun policy => (policy.name, policy)

def wrapperFields : Fields WrapperNames :=
  [field "unix" readString fun names unix => { names with unix },
    field "windows" readString fun names windows => { names with windows }]

def taskFields : Fields Task :=
  [field "goal" readString fun task goal => { task with goal },
    field "property" readString fun task property => { task with property },
    field "batch" readBoolean fun task batch => { task with batch },
    field "args" readStrings fun task args => { task with args }]

def fields : Fields Config :=
  [field "mode" (readChoice modes) fun config mode => { config with mode },
    field "whitespace" (readChoice policies) fun config whitespace => { config with whitespace },
    field "include" readStrings fun config included => { config with included },
    field "wrapper" (readRecord "WrapperConfig" wrapperFields {})
      fun config wrapper => { config with wrapper },
    field "task" (readRecord "TaskConfig" taskFields {}) fun config task => { config with task }]

def ofTable (table : Toml.Table) : Except ShapeError Config :=
  table.foldlM (setField fields) {}

end StagedFormat.Config
