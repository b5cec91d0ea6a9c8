import StagedFormat.Proofs.JsonRoundTrip
import StagedFormat.Report.Narration

/-!
# Reading reports back

What is printed for programs is one object, and whoever looks its members up by their names gets
back what was reported.  Each kind of report has a reader of its own, which knows the names and the
kinds of value that stand under them but not how the report was written.
-/

set_option autoImplicit false

namespace StagedFormat

/-! ## Values by their kind -/

namespace Json

variable {α : Type}

def flag? : Json → Option Bool
  | boolean flag => some flag
  | _ => none

def number? : Json → Option Int
  | integer number => some number
  | _ => none

def text? : Json → Option String
  | string text => some text
  | _ => none

def list? (read : Json → Option α) : Json → Option (List α)
  | array items => items.mapM read
  | _ => none

/-- A value that may be missing, which `null` stands for. -/
def nullable? (read : Json → Option α) : Json → Option (Option α)
  | null => some none
  | document => (read document).map some

def members? : Json → Option (List (String × Json))
  | object members => some members
  | _ => none

def member? (members : List (String × Json)) (name : String) (read : Json → Option α) :
    Option α :=
  (members.lookup name).bind read

/-- A member that may be left out.  If it is there, its value has to be of the right kind. -/
def optionalMember? (members : List (String × Json)) (name : String) (read : Json → Option α) :
    Option (Option α) :=
  match members.lookup name with
  | none => some none
  | some document => (read document).map some

theorem list?_array_map (write : α → Json) (read : Json → Option α)
    (inverse : ∀ item, read (write item) = some item) (items : List α) :
    list? read (.array (items.map write)) = some items := by
  rw [list?]
  induction items with
  | nil => rfl
  | cons item rest ih => simp [inverse item, ih]

theorem list?_strings (texts : List String) : list? text? (.strings texts) = some texts :=
  list?_array_map .string text? (fun _ => rfl) texts

theorem nullable?_stringOrNull (text : Option String) :
    nullable? text? (.stringOrNull text) = some text := by
  cases text <;> rfl

/-- The line feed behind a printed document belongs to no token. -/
theorem read?_line (document : Json) : read? (document.print 0 ++ ['\n']) = some document := by
  have lexed := tokensFrom_print document 0 ['\n'] (delimits_cons [] (by decide))
  have parsed := foldlM_tokens document [] []
  have feed : tokensFrom .between ['\n'] = some [] := rfl
  rw [List.append_nil] at parsed
  rw [read?, lexed, feed]
  simp [parsed]

end Json

/-! ## Reports of runs -/

def PassMode.ofName? (name : String) : Option PassMode :=
  if name = "paths" then some .paths
  else if name = "patterns" then some .patterns
  else none

def SkipReason.ofName? (name : String) : Option SkipReason :=
  if name = "whitespace_only" then some .whitespaceOnly
  else if name = "not_included" then some .notIncluded
  else none

theorem PassMode.ofName?_name (mode : PassMode) : ofName? mode.name = some mode := by
  cases mode <;> rfl

theorem SkipReason.ofName?_name (reason : SkipReason) : ofName? reason.name = some reason := by
  cases reason <;> rfl

def SkippedFile.ofDocument? (document : Json) : Option SkippedFile := do
  let members ← document.members?
  let file ← Json.member? members "file" Json.text?
  let reason ← Json.member? members "reason" fun value => value.text?.bind SkipReason.ofName?
  some ⟨file, reason⟩

def RunReport.ofMembers? (members : List (String × Json)) : Option RunReport := do
  let success ← Json.member? members "success" Json.flag?
  let root ← Json.member? members "repo_root" Json.text?
  let wrapper ← Json.member? members "wrapper" Json.text?
  let mode ← Json.member? members "mode" fun value => value.text?.bind PassMode.ofName?
  let files ← Json.member? members "files" (Json.list? Json.text?)
  let skipped ← Json.member? members "skipped" (Json.list? SkippedFile.ofDocument?)
  let filesArgument ← Json.member? members "files_arg" (Json.nullable? Json.text?)
  let invoked ← Json.member? members "invoked" Json.flag?
  let dryRun ← Json.member? members "dry_run" Json.flag?
  let exitCode ← Json.member? members "exit_code" Json.number?
  let error ← Json.optionalMember? members "error" Json.text?
  some { success, root, wrapper, mode, files, skipped, filesArgument, invoked, dryRun, exitCode,
         error }

def RunReport.names (report : RunReport) : List String :=
  ["success", "repo_root", "wrapper", "mode", "files", "skipped", "files_arg", "invoked",
    "dry_run", "exit_code"]
    ++ if report.error.isSome then ["error"] else []

theorem SkippedFile.list?_ofDocument? (skipped : List SkippedFile) :
    Json.list? ofDocument? (.array (skipped.map fun one =>
      .object [("file", .string one.file), ("reason", .string one.reason.name)])) =
        some skipped := by
  refine Json.list?_array_map _ ofDocument? ?_ skipped
  intro one
  simp [ofDocument?, Json.members?, Json.member?, Json.text?, List.lookup_cons,
    SkipReason.ofName?_name]

theorem RunReport.ofMembers?_document (report : RunReport) :
    ∃ members, report.document = .object members ∧ members.map Prod.fst = report.names ∧
      ofMembers? members = some report := by
  obtain ⟨success, root, wrapper, mode, files, skipped, filesArgument, invoked, dryRun, exitCode,
    error⟩ := report
  refine ⟨_, rfl, ?_, ?_⟩
  · cases error <;> rfl
  · cases error <;>
      simp [ofMembers?, Json.member?, Json.optionalMember?, Json.optionalMember, List.lookup_cons,
        Json.flag?, Json.text?, Json.number?, PassMode.ofName?_name, Json.list?_strings,
        SkippedFile.list?_ofDocument?, Json.nullable?_stringOrNull]

/-! ## Other reports -/

def Notice.ofMembers? (members : List (String × Json)) : Option Notice := do
  let success ← Json.member? members "success" Json.flag?
  let message ← Json.member? members "message" Json.text?
  some ⟨success, message⟩

theorem Notice.ofMembers?_document (notice : Notice) :
    ∃ members, notice.document = .object members ∧
      members.map Prod.fst = ["success", "message"] ∧ ofMembers? members = some notice := by
  refine ⟨_, rfl, rfl, ?_⟩
  simp [ofMembers?, Json.member?, List.lookup_cons, Json.flag?, Json.text?]

/-- What is reported of a failure.  Two failures that differ may be reported alike. -/
structure FailureReport where
  success : Bool
  error : String
  exitCode : Int
  hint : Option String
  deriving DecidableEq, Repr

def FailureReport.ofMembers? (members : List (String × Json)) : Option FailureReport := do
  let success ← Json.member? members "success" Json.flag?
  let error ← Json.member? members "error" Json.text?
  let exitCode ← Json.member? members "exit_code" Json.number?
  let hint ← Json.optionalMember? members "hint" Json.text?
  some ⟨success, error, exitCode, hint⟩

namespace Failure

def report (failure : Failure) : FailureReport :=
  ⟨false, failure.message, failure.exitCode, failure.hint?⟩

def names (failure : Failure) : List String :=
  ["success", "error", "exit_code"] ++ if failure.hint?.isSome then ["hint"] else []

theorem ofMembers?_document (failure : Failure) :
    ∃ members, failure.document = .object members ∧ members.map Prod.fst = failure.names ∧
      FailureReport.ofMembers? members = some failure.report := by
  refine ⟨_, rfl, ?_, ?_⟩
  · unfold names
    cases failure.hint? <;> rfl
  · unfold report
    cases failure.hint? <;>
      simp [FailureReport.ofMembers?, Json.member?, Json.optionalMember?, Json.optionalMember,
        List.lookup_cons, Json.flag?, Json.text?, Json.number?]

/-- The failures that whoever runs the hook can do something about have a hint. -/
theorem hint?_isSome_iff (failure : Failure) :
    failure.hint?.isSome = true ↔
      failure = .noFiles ∨ ∃ expected, failure = .wrapperMissing expected := by
  cases failure <;> simp [hint?]

end Failure

/-! ## Printed reports -/

/-- A text is one object whose members have these names, in this order, and in which a reader finds
a record. -/
def ReadsBack {α : Type} (read : List (String × Json) → Option α) (text : String)
    (names : List String) (record : α) : Prop :=
  ∃ members, Json.read? text.toList = some (.object members) ∧ members.map Prod.fst = names ∧
    read members = some record

/-- The same text is not read back as two records. -/
theorem ReadsBack.unique {α : Type} {read : List (String × Json) → Option α} {text : String}
    {names others : List String} {record other : α} (first : ReadsBack read text names record)
    (second : ReadsBack read text others other) : record = other := by
  obtain ⟨members, parsed, -, found⟩ := first
  obtain ⟨others, parsedAgain, -, foundAgain⟩ := second
  obtain rfl : members = others := by
    rw [parsed] at parsedAgain
    injection parsedAgain with same
    injection same
  exact Option.some.inj (found.symm.trans foundAgain)

theorem readsBack_line {α : Type} {read : List (String × Json) → Option α} {document : Json}
    {names : List String} {record : α}
    (readable : ∃ members, document = .object members ∧ members.map Prod.fst = names ∧
      read members = some record) :
    ReadsBack read (Narrator.line document.text) names record := by
  obtain ⟨members, rfl, named, found⟩ := readable
  refine ⟨members, ?_, named, found⟩
  simpa [Narrator.line, Json.text] using Json.read?_line (.object members)

theorem Narrator.readsBack_failure (colored : Bool) (failure : Failure)
    (unreported : failure.isReported = false) :
    ReadsBack FailureReport.ofMembers? ((Narrator.mk .programs colored).failure failure)
      failure.names failure.report := by
  have printed : (Narrator.mk .programs colored).failure failure =
      Narrator.line failure.document.text := by
    simp [Narrator.failure, unreported]
  rw [printed]
  exact readsBack_line failure.ofMembers?_document

/-- What is printed for programs is an object that reads back as the report it was printed for,
with the members that the report has and in their order.  So reports of one kind that differ are
never printed alike. -/
theorem Narrator.printed_readsBack (colored : Bool) :
    (∀ report : RunReport,
      ReadsBack RunReport.ofMembers? ((Narrator.mk .programs colored).finish report)
        report.names report) ∧
    (∀ notice : Notice,
      ReadsBack Notice.ofMembers? ((Narrator.mk .programs colored).notice notice)
        ["success", "message"] notice) ∧
    (∀ failure : Failure, failure.isReported = false →
      ReadsBack FailureReport.ofMembers? ((Narrator.mk .programs colored).failure failure)
        failure.names failure.report ∧
      ("hint" ∈ failure.names ↔
        failure = .noFiles ∨ ∃ expected, failure = .wrapperMissing expected)) ∧
    Function.Injective (Narrator.mk .programs colored).finish ∧
    Function.Injective (Narrator.mk .programs colored).notice ∧
    (∀ failure other : Failure, failure.isReported = false → other.isReported = false →
      (Narrator.mk .programs colored).failure failure =
        (Narrator.mk .programs colored).failure other → failure.report = other.report) := by
  have finished : ∀ report : RunReport,
      ReadsBack RunReport.ofMembers? ((Narrator.mk .programs colored).finish report)
        report.names report :=
    fun report => readsBack_line report.ofMembers?_document
  have noticed : ∀ notice : Notice,
      ReadsBack Notice.ofMembers? ((Narrator.mk .programs colored).notice notice)
        ["success", "message"] notice :=
    fun notice => readsBack_line notice.ofMembers?_document
  have failed := Narrator.readsBack_failure colored
  refine ⟨finished, noticed, ?_, ?_, ?_, ?_⟩
  · intro failure unreported
    refine ⟨failed failure unreported, ?_⟩
    rw [← failure.hint?_isSome_iff, Failure.names]
    cases failure.hint? <;> simp
  · intro report other same
    exact (finished report).unique (same ▸ finished other)
  · intro notice other same
    exact (noticed notice).unique (same ▸ noticed other)
  · intro failure other unreported otherUnreported same
    exact (failed failure unreported).unique (same ▸ failed other otherUnreported)

/-- A file with a quote, a control character and a letter beyond ASCII in its name. -/
def oddReport : RunReport where
  success := false
  root := "/r"
  wrapper := "/r/mvnw"
  mode := .patterns
  files := ["a\"\\\x01ü.java"]
  skipped := [⟨"", .notIncluded⟩]
  filesArgument := none
  invoked := true
  dryRun := false
  exitCode := -1
  error := some "\n"

theorem Narrator.printed_readsBack_odd :
    ReadsBack RunReport.ofMembers? ((Narrator.mk .programs true).finish oddReport)
      ["success", "repo_root", "wrapper", "mode", "files", "skipped", "files_arg", "invoked",
        "dry_run", "exit_code", "error"] oddReport ∧
    Failure.noFiles.isReported = false ∧
    ReadsBack FailureReport.ofMembers? ((Narrator.mk .programs true).failure .noFiles)
      ["success", "error", "exit_code", "hint"]
      ⟨false, "No files provided.", 1, some "Pass the staged files to format as arguments"⟩ :=
  ⟨(Narrator.printed_readsBack true).1 oddReport, rfl,
    ((Narrator.printed_readsBack true).2.2.1 .noFiles rfl).1⟩

end StagedFormat
