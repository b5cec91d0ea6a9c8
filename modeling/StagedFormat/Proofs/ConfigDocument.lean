import StagedFormat.Config.Load
import StagedFormat.Proofs.IncludeFilter
import StagedFormat.Proofs.TableKeys

/-!
# Documents that are configurations

A document is a configuration if it has the keys of one, with values of the right shapes.  Then
each field has the value that is written for it, or its default, whatever is written for the others.
A record is read entry by entry: `IsField` is what reading one entry keeps of a field, and
`IsField.of_foldlM` what a whole table leaves in it.
-/

set_option autoImplicit false

namespace StagedFormat.Config

open Toml (Value Table Distinct document?)

/-! ## Single values -/

theorem readString_eq_ok_iff (value : Value) (text : String) :
    readString value = .ok text ↔ value = .string text := by
  cases value <;> simp [readString]

theorem readBoolean_eq_ok_iff (value : Value) (flag : Bool) :
    readBoolean value = .ok flag ↔ value = .boolean flag := by
  cases value <;> simp [readBoolean]

theorem readStrings_eq_ok_iff (value : Value) (texts : List String) :
    readStrings value = .ok texts ↔ value = .array (texts.map .string) := by
  cases value with
  | array items =>
    rw [readStrings, mapM_eq_ok_iff, Value.array.injEq]
    simp only [readString_eq_ok_iff]
    rw [← List.forall₂_map_right_iff, List.forall₂_eq_eq_eq]
  | _ => simp [readStrings]

/-- Choices are found by their names. -/
theorem lookup_choices_iff {α : Type} (choices : List α) {nameOf : α → String}
    (differ : Function.Injective nameOf) (name : String) (choice : α) :
    (choices.map fun other => (nameOf other, other)).lookup name = some choice ↔
      choice ∈ choices ∧ name = nameOf choice := by
  induction choices with
  | nil => simp
  | cons first rest ih =>
    rw [List.map_cons, List.lookup_cons, List.mem_cons]
    by_cases isFirst : name = nameOf first
    · rw [isFirst, beq_self_eq_true]
      constructor
      · rintro ⟨⟩
        exact ⟨.inl rfl, rfl⟩
      · rintro ⟨-, same⟩
        rw [differ same]
    · have notFirst : (name == nameOf first) = false := by simpa using isFirst
      rw [notFirst, ih]
      constructor
      · exact fun found => ⟨.inr found.1, found.2⟩
      · rintro ⟨rfl | member, rfl⟩
        · exact absurd rfl isFirst
        · exact ⟨member, rfl⟩

/-- Without a table, only the name of a choice is read as one. -/
theorem readChoice_eq_ok_iff {α : Type} {choices : List α} {nameOf : α → String}
    (differ : Function.Injective nameOf) {value : Value}
    (noTable : ∀ entries, value ≠ .table entries) (choice : α) :
    readChoice (choices.map fun other => (nameOf other, other)) value = .ok choice ↔
      choice ∈ choices ∧ value = .string (nameOf choice) := by
  cases value with
  | string name =>
    have found := lookup_choices_iff choices differ name choice
    rw [Value.string.injEq, ← found, readChoice, findChoice]
    split
    · rename_i other same
      simp [same]
    · rename_i same
      simp [same]
  | table entries => exact absurd rfl (noTable entries)
  | _ => simp [readChoice]

theorem readMode_eq_ok_iff {value : Value} (noTable : ∀ entries, value ≠ .table entries)
    (mode : PassMode) : readChoice modes value = .ok mode ↔ value = .string mode.name := by
  have differ : Function.Injective PassMode.name := by
    intro mode other
    cases mode <;> cases other <;> simp [PassMode.name]
  rw [modes, readChoice_eq_ok_iff differ noTable]
  cases mode <;> simp

theorem readPolicy_eq_ok_iff {value : Value} (noTable : ∀ entries, value ≠ .table entries)
    (policy : WhitespacePolicy) :
    readChoice policies value = .ok policy ↔ value = .string policy.name := by
  have differ : Function.Injective WhitespacePolicy.name := by
    intro policy other
    cases policy <;> cases other <;> simp [WhitespacePolicy.name]
  rw [policies, readChoice_eq_ok_iff differ noTable]
  cases policy <;> simp

/-! ## Records -/

section Records

variable {ρ α β : Type} {fields : Fields ρ} {name other : String}
  {read : Value → Except ShapeError α} {get : ρ → α} {set : ρ → α → ρ} {value : Value}
  {record next : ρ}

theorem setField_nil_ne_ok (entry : String × Value) :
    setField ([] : Fields ρ) record entry ≠ .ok next := by
  simp [setField]

/-- The first field takes the entries with its name. -/
theorem setField_cons_eq_ok_iff (entry : String × Value) :
    setField (field name read set :: fields) record entry = .ok next ↔
      entry.1 = name ∧ (∃ content, read entry.2 = .ok content ∧ next = set record content) ∨
        entry.1 ≠ name ∧ setField fields record entry = .ok next := by
  by_cases same : entry.1 = name
  · have isName : (entry.1 == name) = true := by simpa using same
    rw [setField, field, List.lookup_cons, isName]
    cases content : read entry.2 <;> simp [same, content, Except.map, eq_comm]
  · have differ : (entry.1 == name) = false := by simpa using same
    rw [setField, field, List.lookup_cons, differ, setField]
    cases found : fields.lookup entry.1 <;> simp [same]

/-! ### Which tables are records -/

theorem exists_setField_nil_iff (entry : String × Value) :
    (∃ next, setField ([] : Fields ρ) record entry = .ok next) ↔ False := by
  simp [setField_nil_ne_ok]

theorem exists_setField_cons_iff (entry : String × Value) :
    (∃ next, setField (field name read set :: fields) record entry = .ok next) ↔
      entry.1 = name ∧ (∃ content, read entry.2 = .ok content) ∨
        entry.1 ≠ name ∧ ∃ next, setField fields record entry = .ok next := by
  simp only [setField_cons_eq_ok_iff, exists_or, exists_and_left]
  simp

/-- A table is a record if each of its entries is one of a record, whatever was read before. -/
theorem exists_foldlM_iff {accepts : String × Value → Prop} (entries : Table)
    (each : ∀ entry ∈ entries, ∀ record,
      (∃ next, setField fields record entry = .ok next) ↔ accepts entry) (record : ρ) :
    (∃ final, entries.foldlM (setField fields) record = .ok final) ↔
      ∀ entry ∈ entries, accepts entry := by
  induction entries generalizing record with
  | nil => simp [pure, Except.pure]
  | cons entry rest ih =>
    obtain ⟨first, others⟩ := List.forall_mem_cons.mp each
    rw [List.forall_mem_cons, ← first record, List.foldlM_cons]
    cases setField fields record entry with
    | error error => simp [bind, Except.bind]
    | ok next => simpa [bind, Except.bind] using ih others next

/-! ### What a record holds -/

/-- A field of a record: read from the entry with its name, and left alone by all others. -/
structure IsField (fields : Fields ρ) (name : String) (read : Value → Except ShapeError α)
    (get : ρ → α) : Prop where
  own : ∀ value record next, setField fields record (name, value) = .ok next →
    read value = .ok (get next)
  others : ∀ entry record next, entry.1 ≠ name → setField fields record entry = .ok next →
    get next = get record

/-- None of the fields is read into this one. -/
def Leaves (fields : Fields ρ) (get : ρ → α) : Prop :=
  ∀ entry record next, setField fields record entry = .ok next → get next = get record

theorem Leaves.nil : Leaves [] get :=
  fun entry _ _ read => absurd read (setField_nil_ne_ok entry)

theorem Leaves.cons {readOther : Value → Except ShapeError β} {setOther : ρ → β → ρ}
    (keeps : ∀ record content, get (setOther record content) = get record)
    (leaves : Leaves fields get) : Leaves (field other readOther setOther :: fields) get := by
  intro entry record next read
  rcases (setField_cons_eq_ok_iff entry).mp read with ⟨-, content, -, rfl⟩ | ⟨-, later⟩
  · exact keeps record content
  · exact leaves entry record next later

theorem IsField.head (puts : ∀ record content, get (set record content) = content)
    (leaves : Leaves fields get) : IsField (field name read set :: fields) name read get where
  own := by
    intro value record next done
    rcases (setField_cons_eq_ok_iff _).mp done with ⟨-, content, reads, rfl⟩ | ⟨differ, -⟩
    · rw [puts, reads]
    · exact absurd rfl differ
  others := by
    intro entry record next differ done
    rcases (setField_cons_eq_ok_iff _).mp done with ⟨same, -⟩ | ⟨-, later⟩
    · exact absurd same differ
    · exact leaves entry record next later

theorem IsField.tail {readOther : Value → Except ShapeError β} {setOther : ρ → β → ρ}
    (differ : name ≠ other)
    (keeps : ∀ record content, get (setOther record content) = get record)
    (isField : IsField fields name read get) :
    IsField (field other readOther setOther :: fields) name read get where
  own := by
    intro value record next done
    rcases (setField_cons_eq_ok_iff _).mp done with ⟨same, -⟩ | ⟨-, later⟩
    · exact absurd same differ
    · exact isField.own value record next later
  others := by
    intro entry record next notName done
    rcases (setField_cons_eq_ok_iff _).mp done with ⟨-, content, -, rfl⟩ | ⟨-, later⟩
    · exact keeps record content
    · exact isField.others entry record next notName later

/-- A table that has each key once leaves in a field what its own entry says, and without one what
there was. -/
theorem IsField.of_foldlM (isField : IsField fields name read get) {entries : Table}
    (once : Distinct entries) {final : ρ}
    (done : entries.foldlM (setField fields) record = .ok final) :
    (∀ value, (name, value) ∈ entries → read value = .ok (get final)) ∧
      ((∀ value, (name, value) ∉ entries) → get final = get record) := by
  induction entries generalizing record with
  | nil =>
    cases done
    exact ⟨by simp, fun _ => rfl⟩
  | cons entry rest ih =>
    obtain ⟨key, content⟩ := entry
    obtain ⟨fresh, restOnce⟩ := List.nodup_cons.mp once
    rw [List.foldlM_cons] at done
    cases first : setField fields record (key, content) with
    | error error => simp [first, bind, Except.bind] at done
    | ok next =>
      rw [first] at done
      obtain ⟨given, absent⟩ := ih restOnce done
      by_cases same : key = name
      · -- This is the only entry with the name, so that what it sets stays.
        subst same
        have missing : ∀ value, (key, value) ∉ rest := fun value member =>
          fresh (List.mem_map.mpr ⟨_, member, rfl⟩)
        refine ⟨fun value member => ?_, fun none => absurd List.mem_cons_self (none content)⟩
        obtain rfl : value = content := by simpa [missing] using member
        rw [absent missing]
        exact isField.own value record next first
      · refine ⟨fun value member => given value ?_, fun none => ?_⟩
        · simpa [Ne.symm same] using member
        · rw [absent fun value member => none value (List.mem_cons_of_mem _ member)]
          exact isField.others _ record next same first

/-- A field has what is written for it, or its default if nothing is. -/
structure IsWritten (written : Value → Prop) (form : α → Value) (default chosen : α) : Prop where
  given : ∀ value, written value → value = form chosen
  missing : (∀ value, ¬ written value) → chosen = default

theorem IsWritten.unique {written : Value → Prop} {form : α → Value} {default chosen other : α}
    (differ : Function.Injective form) (first : IsWritten written form default chosen)
    (second : IsWritten written form default other) : chosen = other := by
  by_cases there : ∃ value, written value
  · obtain ⟨value, isWritten⟩ := there
    exact differ ((first.given value isWritten).symm.trans (second.given value isWritten))
  · have none := not_exists.mp there
    rw [first.missing none, second.missing none]

theorem IsField.isWritten (isField : IsField fields name read get) {entries : Table}
    (once : Distinct entries) {final : ρ}
    (done : entries.foldlM (setField fields) record = .ok final) {form : α → Value}
    (formed : ∀ value, (name, value) ∈ entries → ∀ content, read value = .ok content →
      value = form content) :
    IsWritten (fun value => (name, value) ∈ entries) form (get record) (get final) := by
  obtain ⟨given, absent⟩ := isField.of_foldlM once done
  exact ⟨fun value member => formed value member _ (given value member), absent⟩

/-- A field of a record that is itself a field: without a table for the record, it has its default
as well. -/
theorem IsField.isWritten_inside {shape : String} {inner : Fields β} {defaults : β}
    {getRecord : ρ → β} {key : String} {getField : β → α}
    (outer : IsField fields name (readRecord shape inner defaults) getRecord)
    (isField : IsField inner key read getField) {entries : Table}
    (keys : (Value.table entries).KeysOnce) (noArray : ∀ items, (name, .array items) ∉ entries)
    {final : ρ} (done : entries.foldlM (setField fields) record = .ok final)
    (start : getRecord record = defaults) {form : α → Value}
    (formed : ∀ value content, read value = .ok content → value = form content) :
    IsWritten (fun value => ∃ table, (name, .table table) ∈ entries ∧ (key, value) ∈ table) form
      (getField defaults) (getField (getRecord final)) := by
  obtain ⟨once, inside⟩ : Distinct entries ∧ ∀ entry ∈ entries, entry.2.KeysOnce := by
    cases keys with
    | table once inside => exact ⟨once, inside⟩
  obtain ⟨given, absent⟩ := outer.of_foldlM once done
  have held : ∀ table, (name, .table table) ∈ entries →
      (∀ value, (key, value) ∈ table → read value = .ok (getField (getRecord final))) ∧
        ((∀ value, (key, value) ∉ table) → getField (getRecord final) = getField defaults) := by
    intro table member
    cases inside _ member with
    | table tableOnce => exact isField.of_foldlM tableOnce (given _ member)
  constructor
  · rintro value ⟨table, member, inTable⟩
    exact formed value _ ((held table member).1 value inTable)
  · intro none
    by_cases there : ∃ value, (name, value) ∈ entries
    · obtain ⟨value, member⟩ := there
      have reads := given value member
      cases value with
      | table table =>
        exact (held table member).2 fun value inTable => none value ⟨table, member, inTable⟩
      | array items => exact absurd member (noArray items)
      | _ => cases reads
    · rw [absent (not_exists.mp there), start]

end Records

/-! ## Entries of a configuration -/

inductive WrapperEntry : String × Value → Prop
  | unix (text : String) : WrapperEntry ("unix", .string text)
  | windows (text : String) : WrapperEntry ("windows", .string text)

inductive TaskEntry : String × Value → Prop
  | goal (text : String) : TaskEntry ("goal", .string text)
  | property (text : String) : TaskEntry ("property", .string text)
  | batch (flag : Bool) : TaskEntry ("batch", .boolean flag)
  | args (texts : List String) : TaskEntry ("args", .array (texts.map .string))

/-- The entries that a configuration can have. -/
inductive ConfigEntry : String × Value → Prop
  | paths : ConfigEntry ("mode", .string "paths")
  | patterns : ConfigEntry ("mode", .string "patterns")
  | atLineEnd : ConfigEntry ("whitespace", .string "eol")
  | anywhere : ConfigEntry ("whitespace", .string "all")
  | included (texts : List String) : ConfigEntry ("include", .array (texts.map .string))
  | wrapper {entries : Table} (each : ∀ entry ∈ entries, WrapperEntry entry) :
      ConfigEntry ("wrapper", .table entries)
  | task {entries : Table} (each : ∀ entry ∈ entries, TaskEntry entry) :
      ConfigEntry ("task", .table entries)

theorem exists_setField_wrapper_iff (entry : String × Value) (record : WrapperNames) :
    (∃ next, setField wrapperFields record entry = .ok next) ↔ WrapperEntry entry := by
  obtain ⟨key, value⟩ := entry
  simp only [wrapperFields, exists_setField_cons_iff, exists_setField_nil_iff, readString_eq_ok_iff,
    and_false, or_false]
  constructor
  · rintro (⟨rfl, text, rfl⟩ | ⟨-, rfl, text, rfl⟩)
    · exact .unix text
    · exact .windows text
  · rintro (text | text)
    · exact .inl ⟨rfl, text, rfl⟩
    · exact .inr ⟨by decide, rfl, text, rfl⟩

theorem exists_setField_task_iff (entry : String × Value) (record : Task) :
    (∃ next, setField taskFields record entry = .ok next) ↔ TaskEntry entry := by
  obtain ⟨key, value⟩ := entry
  simp only [taskFields, exists_setField_cons_iff, exists_setField_nil_iff, readString_eq_ok_iff,
    readBoolean_eq_ok_iff, readStrings_eq_ok_iff, and_false, or_false]
  constructor
  · rintro (⟨rfl, text, rfl⟩ | ⟨-, ⟨rfl, text, rfl⟩ | ⟨-, ⟨rfl, flag, rfl⟩ | ⟨-, rfl, texts, rfl⟩⟩⟩)
    · exact .goal text
    · exact .property text
    · exact .batch flag
    · exact .args texts
  · rintro (text | text | flag | texts)
    · exact .inl ⟨rfl, text, rfl⟩
    · exact .inr ⟨by decide, .inl ⟨rfl, text, rfl⟩⟩
    · exact .inr ⟨by decide, .inr ⟨by decide, .inl ⟨rfl, flag, rfl⟩⟩⟩
    · exact .inr ⟨by decide, .inr ⟨by decide, .inr ⟨by decide, rfl, texts, rfl⟩⟩⟩

/-- A value that is not an array is a record if it is a table of entries of one. -/
theorem exists_readRecord_iff {ρ : Type} (shape : String) {fields : Fields ρ} (defaults : ρ)
    {accepts : String × Value → Prop}
    (each : ∀ entry record, (∃ next, setField fields record entry = .ok next) ↔ accepts entry)
    {value : Value} (noArray : ∀ items, value ≠ .array items) :
    (∃ record, readRecord shape fields defaults value = .ok record) ↔
      ∃ entries, value = .table entries ∧ ∀ entry ∈ entries, accepts entry := by
  cases value with
  | table entries =>
    rw [readRecord, exists_foldlM_iff entries (fun entry _ record => each entry record)]
    simp
  | array items => exact absurd rfl (noArray items)
  | _ => simp [readRecord]

/-- The notations of a choice and of a record that are left out here: a choice as a table, and a
record as an array. -/
structure IsPlain (table : Table) : Prop where
  mode : ∀ entries, ("mode", .table entries) ∉ table
  whitespace : ∀ entries, ("whitespace", .table entries) ∉ table
  wrapper : ∀ items, ("wrapper", .array items) ∉ table
  task : ∀ items, ("task", .array items) ∉ table

def isPlainEntry : String × Value → Bool
  | (key, .table _) => key != "mode" && key != "whitespace"
  | (key, .array _) => key != "wrapper" && key != "task"
  | _ => true

theorem isPlain_iff (table : Table) : IsPlain table ↔ table.all isPlainEntry = true := by
  rw [List.all_eq_true]
  constructor
  · rintro isPlain ⟨key, value⟩ member
    cases value with
    | table entries =>
      have mode : key ≠ "mode" := fun same => isPlain.mode entries (same ▸ member)
      have whitespace : key ≠ "whitespace" := fun same => isPlain.whitespace entries (same ▸ member)
      simp [isPlainEntry, mode, whitespace]
    | array items =>
      have wrapper : key ≠ "wrapper" := fun same => isPlain.wrapper items (same ▸ member)
      have task : key ≠ "task" := fun same => isPlain.task items (same ▸ member)
      simp [isPlainEntry, wrapper, task]
    | _ => rfl
  · intro each
    have refused : ∀ entry ∈ table, isPlainEntry entry ≠ false :=
      fun entry member => by simp [each entry member]
    exact ⟨fun _ member => refused _ member rfl, fun _ member => refused _ member rfl,
      fun _ member => refused _ member rfl, fun _ member => refused _ member rfl⟩

instance (table : Table) : Decidable (IsPlain table) :=
  decidable_of_iff _ (isPlain_iff table).symm

theorem exists_setField_config_iff {table : Table} (isPlain : IsPlain table)
    (entry : String × Value) (member : entry ∈ table) (record : Config) :
    (∃ next, setField fields record entry = .ok next) ↔ ConfigEntry entry := by
  obtain ⟨key, value⟩ := entry
  simp only [fields, exists_setField_cons_iff, exists_setField_nil_iff, readStrings_eq_ok_iff,
    and_false, or_false]
  constructor
  · rintro (⟨rfl, mode, reads⟩ | ⟨-, ⟨rfl, policy, reads⟩ | ⟨-, ⟨rfl, texts, rfl⟩ |
      ⟨-, ⟨rfl, reads⟩ | ⟨-, rfl, reads⟩⟩⟩⟩)
    · obtain rfl := (readMode_eq_ok_iff (fun entries same =>
        isPlain.mode entries (same ▸ member)) mode).mp reads
      cases mode with
      | paths => exact .paths
      | patterns => exact .patterns
    · obtain rfl := (readPolicy_eq_ok_iff (fun entries same =>
        isPlain.whitespace entries (same ▸ member)) policy).mp reads
      cases policy with
      | atLineEnd => exact .atLineEnd
      | anywhere => exact .anywhere
    · exact .included texts
    · obtain ⟨entries, rfl, each⟩ := (exists_readRecord_iff _ _ exists_setField_wrapper_iff
        fun items same => isPlain.wrapper items (same ▸ member)).mp reads
      exact .wrapper each
    · obtain ⟨entries, rfl, each⟩ := (exists_readRecord_iff _ _ exists_setField_task_iff
        fun items same => isPlain.task items (same ▸ member)).mp reads
      exact .task each
  · rintro (_ | _ | _ | _ | texts | each | each)
    · exact .inl ⟨rfl, .paths, rfl⟩
    · exact .inl ⟨rfl, .patterns, rfl⟩
    · exact .inr ⟨by decide, .inl ⟨rfl, .atLineEnd, rfl⟩⟩
    · exact .inr ⟨by decide, .inl ⟨rfl, .anywhere, rfl⟩⟩
    · exact .inr ⟨by decide, .inr ⟨by decide, .inl ⟨rfl, texts, rfl⟩⟩⟩
    · have reads := (exists_readRecord_iff "WrapperConfig" {} exists_setField_wrapper_iff
        (by simp)).mpr ⟨_, rfl, each⟩
      exact .inr ⟨by decide, .inr ⟨by decide, .inr ⟨by decide, .inl ⟨rfl, reads⟩⟩⟩⟩
    · have reads := (exists_readRecord_iff "TaskConfig" {} exists_setField_task_iff
        (by simp)).mpr ⟨_, rfl, each⟩
      exact .inr ⟨by decide, .inr ⟨by decide, .inr ⟨by decide, .inr ⟨by decide, rfl, reads⟩⟩⟩⟩

/-! ## Configurations -/

/-- Each field of a configuration has the value that a table has for its key, or its default. -/
structure Carries (table : Table) (config : Config) : Prop where
  mode : IsWritten (fun value => ("mode", value) ∈ table) (fun mode => .string mode.name) .paths
    config.mode
  whitespace : IsWritten (fun value => ("whitespace", value) ∈ table)
    (fun policy => .string policy.name) .atLineEnd config.whitespace
  included : IsWritten (fun value => ("include", value) ∈ table)
    (fun texts => .array (texts.map .string)) [] config.included
  unix : IsWritten
    (fun value => ∃ entries, ("wrapper", .table entries) ∈ table ∧ ("unix", value) ∈ entries)
    .string "mvnw" config.wrapper.unix
  windows : IsWritten
    (fun value => ∃ entries, ("wrapper", .table entries) ∈ table ∧ ("windows", value) ∈ entries)
    .string "mvnw.cmd" config.wrapper.windows
  goal : IsWritten
    (fun value => ∃ entries, ("task", .table entries) ∈ table ∧ ("goal", value) ∈ entries)
    .string "spotless:apply" config.task.goal
  property : IsWritten
    (fun value => ∃ entries, ("task", .table entries) ∈ table ∧ ("property", value) ∈ entries)
    .string "spotlessFiles" config.task.property
  batch : IsWritten
    (fun value => ∃ entries, ("task", .table entries) ∈ table ∧ ("batch", value) ∈ entries)
    .boolean true config.task.batch
  args : IsWritten
    (fun value => ∃ entries, ("task", .table entries) ∈ table ∧ ("args", value) ∈ entries)
    (fun texts => .array (texts.map .string)) [] config.task.args

theorem isField_wrapper :
    IsField fields "wrapper" (readRecord "WrapperConfig" wrapperFields {}) Config.wrapper :=
  .tail (by decide) (fun _ _ => rfl) (.tail (by decide) (fun _ _ => rfl)
    (.tail (by decide) (fun _ _ => rfl) (.head (fun _ _ => rfl) (.cons (fun _ _ => rfl) .nil))))

theorem isField_task :
    IsField fields "task" (readRecord "TaskConfig" taskFields {}) Config.task :=
  .tail (by decide) (fun _ _ => rfl) (.tail (by decide) (fun _ _ => rfl)
    (.tail (by decide) (fun _ _ => rfl) (.tail (by decide) (fun _ _ => rfl)
      (.head (fun _ _ => rfl) .nil))))

theorem carries_of_ofTable {table : Table} (keys : (Value.table table).KeysOnce)
    (isPlain : IsPlain table) {config : Config} (read : ofTable table = .ok config) :
    Carries table config := by
  have once : Distinct table := by
    cases keys with
    | table once _ => exact once
  have mode : IsField fields "mode" (readChoice modes) Config.mode :=
    .head (fun _ _ => rfl) (.cons (fun _ _ => rfl) (.cons (fun _ _ => rfl)
      (.cons (fun _ _ => rfl) (.cons (fun _ _ => rfl) .nil))))
  have whitespace : IsField fields "whitespace" (readChoice policies) Config.whitespace :=
    .tail (by decide) (fun _ _ => rfl) (.head (fun _ _ => rfl) (.cons (fun _ _ => rfl)
      (.cons (fun _ _ => rfl) (.cons (fun _ _ => rfl) .nil))))
  have included : IsField fields "include" readStrings Config.included :=
    .tail (by decide) (fun _ _ => rfl) (.tail (by decide) (fun _ _ => rfl)
      (.head (fun _ _ => rfl) (.cons (fun _ _ => rfl) (.cons (fun _ _ => rfl) .nil))))
  have unix : IsField wrapperFields "unix" readString WrapperNames.unix :=
    .head (fun _ _ => rfl) (.cons (fun _ _ => rfl) .nil)
  have windows : IsField wrapperFields "windows" readString WrapperNames.windows :=
    .tail (by decide) (fun _ _ => rfl) (.head (fun _ _ => rfl) .nil)
  have goal : IsField taskFields "goal" readString Task.goal :=
    .head (fun _ _ => rfl) (.cons (fun _ _ => rfl) (.cons (fun _ _ => rfl)
      (.cons (fun _ _ => rfl) .nil)))
  have property : IsField taskFields "property" readString Task.property :=
    .tail (by decide) (fun _ _ => rfl) (.head (fun _ _ => rfl) (.cons (fun _ _ => rfl)
      (.cons (fun _ _ => rfl) .nil)))
  have batch : IsField taskFields "batch" readBoolean Task.batch :=
    .tail (by decide) (fun _ _ => rfl) (.tail (by decide) (fun _ _ => rfl)
      (.head (fun _ _ => rfl) (.cons (fun _ _ => rfl) .nil)))
  have args : IsField taskFields "args" readStrings Task.args :=
    .tail (by decide) (fun _ _ => rfl) (.tail (by decide) (fun _ _ => rfl)
      (.tail (by decide) (fun _ _ => rfl) (.head (fun _ _ => rfl) .nil)))
  have isString := fun value text => (readString_eq_ok_iff value text).mp
  have isStrings := fun value texts => (readStrings_eq_ok_iff value texts).mp
  exact {
    mode := mode.isWritten once read fun value member mode => (readMode_eq_ok_iff
      (fun entries same => isPlain.mode entries (same ▸ member)) mode).mp
    whitespace := whitespace.isWritten once read fun value member policy => (readPolicy_eq_ok_iff
      (fun entries same => isPlain.whitespace entries (same ▸ member)) policy).mp
    included := included.isWritten once read fun value _ => isStrings value
    unix := isField_wrapper.isWritten_inside unix keys isPlain.wrapper read rfl isString
    windows := isField_wrapper.isWritten_inside windows keys isPlain.wrapper read rfl isString
    goal := isField_task.isWritten_inside goal keys isPlain.task read rfl isString
    property := isField_task.isWritten_inside property keys isPlain.task read rfl isString
    batch := isField_task.isWritten_inside batch keys isPlain.task read rfl
      fun value flag => (readBoolean_eq_ok_iff value flag).mp
    args := isField_task.isWritten_inside args keys isPlain.task read rfl isStrings }

/-- There is one configuration only that carries a table. -/
theorem Carries.unique {table : Table} {config other : Config} (first : Carries table config)
    (second : Carries table other) : config = other := by
  have string : Function.Injective Value.string := fun _ _ => Value.string.inj
  have boolean : Function.Injective Value.boolean := fun _ _ => Value.boolean.inj
  have strings : Function.Injective fun texts : List String => Value.array (texts.map .string) :=
    fun _ _ same => string.list_map (Value.array.inj same)
  have mode : Function.Injective fun mode : PassMode => Value.string mode.name :=
    fun mode other => by cases mode <;> cases other <;> simp [PassMode.name]
  have policy : Function.Injective fun policy : WhitespacePolicy => Value.string policy.name :=
    fun policy other => by cases policy <;> cases other <;> simp [WhitespacePolicy.name]
  obtain ⟨_, _, _, ⟨_, _⟩, ⟨_, _, _, _⟩⟩ := config
  obtain ⟨_, _, _, ⟨_, _⟩, ⟨_, _, _, _⟩⟩ := other
  obtain rfl := first.mode.unique mode second.mode
  obtain rfl := first.whitespace.unique policy second.whitespace
  obtain rfl := first.included.unique strings second.included
  obtain rfl := first.unix.unique string second.unix
  obtain rfl := first.windows.unique string second.windows
  obtain rfl := first.goal.unique string second.goal
  obtain rfl := first.property.unique string second.property
  obtain rfl := first.batch.unique boolean second.batch
  obtain rfl := first.args.unique strings second.args
  rfl

theorem exists_ofTable_iff {table : Table} (isPlain : IsPlain table) :
    (∃ config, ofTable table = .ok config) ↔ ∀ entry ∈ table, ConfigEntry entry :=
  exists_foldlM_iff table (exists_setField_config_iff isPlain) {}

variable {rejection : List Char → String}

theorem parse_of_document? {text : List Char} {table : Table}
    (decoded : document? text = some table) (config : Config) :
    parse rejection text = .ok config ↔ ofTable table = .ok config := by
  rw [parse, decoded]
  cases read : ofTable table <;> simp [read]

theorem exists_problem_of_parse {text : List Char}
    (fails : ∀ config, parse rejection text ≠ .ok config) :
    ∃ problem, parse rejection text = .error (.configuration problem) := by
  unfold parse at fails ⊢
  split
  · exact ⟨_, rfl⟩
  · split
    · exact ⟨_, rfl⟩
    · rename_i config read
      simp_all

/-! ## Loading -/

theorem exists_of_readText {tree : FileTree} {workdir : Location} {path : Path} {text : List Char}
    (reads : tree.readText workdir path = .ok text) : tree.exists? workdir path = true := by
  unfold FileTree.readText FileTree.read at reads
  unfold FileTree.exists? FileTree.entry?
  cases found : tree.find workdir path with
  | error error => simp [found, bind, Except.bind] at reads
  | ok place =>
    cases there : tree.look place with
    | none => simp [found, there, bind, Except.bind] at reads
    | some entry => simp [there]

theorem value_load_of_missing (host : Host) (root : Path) (past : List Started)
    (missing : host.tree.exists? host.workdir (file root) = false) :
    (load host root past).value = .ok {} := by
  rw [load, if_neg (by simp [missing])]
  rfl

theorem value_load_of_readText (host : Host) (root : Path) (past : List Started) {text : List Char}
    (reads : host.tree.readText host.workdir (file root) = .ok text) :
    (load host root past).value = parse host.rejection text := by
  rw [load, if_pos (exists_of_readText reads), reads]
  rfl

/-- A document is a configuration exactly if all its entries are entries of one, in whatever order
and notation it is written, and then it is the one that has the values written and otherwise the
defaults.  Any other document is a problem with the configuration.  A repository without the file
has the defaults, and one with a file what its text says. -/
theorem parse_exactly :
    (∀ rejection text table, document? text = some table → IsPlain table →
      ((∃ config, parse rejection text = .ok config) ↔ ∀ entry ∈ table, ConfigEntry entry) ∧
      (∀ config, parse rejection text = .ok config ↔
        (∀ entry ∈ table, ConfigEntry entry) ∧ Carries table config) ∧
      ((¬ ∀ entry ∈ table, ConfigEntry entry) →
        ∃ problem, parse rejection text = .error (.configuration problem) ∧
          (Failure.configuration problem).exitCode = 1)) ∧
    ∀ host root past,
      (host.tree.exists? host.workdir (file root) = false →
        (load host root past).value =
          .ok ⟨.paths, .atLineEnd, [], ⟨"mvnw", "mvnw.cmd"⟩,
            ⟨"spotless:apply", "spotlessFiles", true, []⟩⟩) ∧
      (∀ text, host.tree.readText host.workdir (file root) = .ok text →
        (load host root past).value = parse host.rejection text) ∧
      (∀ error, host.tree.exists? host.workdir (file root) = true →
        host.tree.readText host.workdir (file root) = .error error →
          (load host root past).value =
            .error (.configuration (.unreadable (file root) error))) := by
  refine ⟨fun rejection text table decoded isPlain => ?_, fun host root past => ⟨?_, ?_, ?_⟩⟩
  · have keys := Toml.keysOnce_of_document? decoded
    have isRead :
        (∃ config, parse rejection text = .ok config) ↔ ∀ entry ∈ table, ConfigEntry entry := by
      simp only [parse_of_document? decoded, exists_ofTable_iff isPlain]
    have carries : ∀ config, parse rejection text = .ok config → Carries table config := by
      intro config reads
      exact carries_of_ofTable keys isPlain ((parse_of_document? decoded config).mp reads)
    refine ⟨isRead, fun config => ⟨?_, ?_⟩, ?_⟩
    · exact fun reads => ⟨isRead.mp ⟨config, reads⟩, carries config reads⟩
    · rintro ⟨each, carried⟩
      obtain ⟨other, reads⟩ := isRead.mpr each
      rw [reads, carried.unique (carries other reads)]
    · intro notEach
      obtain ⟨problem, failed⟩ := exists_problem_of_parse
        fun config reads => notEach (isRead.mp ⟨config, reads⟩)
      exact ⟨problem, failed, rfl⟩
  · exact value_load_of_missing host root past
  · exact fun text => value_load_of_readText host root past
  · intro error there fails
    rw [load, if_pos there, fails]
    rfl

/-- Two documents for one configuration, with headers and without. -/
theorem parse_exactly_notations :
    let config : Config :=
      ⟨.patterns, .atLineEnd, [], ⟨"mvnw", "w.cmd"⟩, ⟨"spotless:apply", "spotlessFiles", false, []⟩⟩
    ∀ text ∈ ["task.batch = false\nwrapper = \x7bwindows = 'w.cmd'\x7d\nmode = \"patterns\"".toList,
        "mode = 'patterns'\n[wrapper]\nwindows = \"w.cmd\"\n[task]\nbatch = false".toList],
      ∃ table, document? text = some table ∧ IsPlain table ∧
        parse (fun _ => "") text = .ok config ∧ (∀ entry ∈ table, ConfigEntry entry) ∧
        Carries table config := by
  intro config text member
  have evaluated : ((document? text).any fun table => decide (IsPlain table)) = true ∧
      (parse (fun _ => "") text).toOption = some config := by
    revert text
    decide +kernel
  obtain ⟨table, decoded, isPlain⟩ := (Option.any_eq_true _ _).mp evaluated.1
  have reads : parse (fun _ => "") text = .ok config := by
    cases result : parse (fun _ => "") text with
    | error failure => simp [result, Except.toOption] at evaluated
    | ok other => simpa [result, Except.toOption] using evaluated.2
  have exactly := parse_exactly.1 (fun _ => "") text table decoded (of_decide_eq_true isPlain)
  exact ⟨table, decoded, of_decide_eq_true isPlain, reads, (exactly.2.1 config).mp reads⟩

end StagedFormat.Config
