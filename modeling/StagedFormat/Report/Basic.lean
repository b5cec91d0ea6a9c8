import StagedFormat.Failure
import StagedFormat.Json.Printer
import StagedFormat.Plan.Basic

/-!
# Reports

What a program is told about a run: a report of a run for which there was a plan, the outcome of
another operation, or a failure that came before there was a plan.
-/

set_option autoImplicit false

namespace StagedFormat

structure RunReport where
  success : Bool
  root : String
  wrapper : String
  mode : PassMode
  files : List String
  skipped : List SkippedFile
  filesArgument : Option String
  invoked : Bool
  dryRun : Bool
  exitCode : Int
  error : Option String
  deriving DecidableEq, Repr

namespace RunReport

/-- The report of a run that has made a plan and nothing else yet. -/
def ofPlan (plan : Plan) : RunReport where
  success := true
  root := plan.root.toText
  wrapper := plan.wrapper.toText
  mode := plan.mode
  files := plan.selection.qualifying
  skipped := plan.selection.skipped
  filesArgument := plan.filesArgument?
  invoked := false
  dryRun := false
  exitCode := 0
  error := none

def fail (report : RunReport) (failure : Failure) : RunReport :=
  { report with
    success := false
    exitCode := failure.exitCode
    error := some failure.message }

def document (report : RunReport) : Json :=
  .object <|
    [("success", .boolean report.success),
      ("repo_root", .string report.root),
      ("wrapper", .string report.wrapper),
      ("mode", .string report.mode.name),
      ("files", .strings report.files),
      ("skipped", .array (report.skipped.map fun skipped =>
        .object [("file", .string skipped.file), ("reason", .string skipped.reason.name)])),
      ("files_arg", .stringOrNull report.filesArgument),
      ("invoked", .boolean report.invoked),
      ("dry_run", .boolean report.dryRun),
      ("exit_code", .integer report.exitCode)]
      ++ Json.optionalMember "error" report.error

end RunReport

structure Notice where
  success : Bool
  message : String
  deriving DecidableEq, Repr

def Notice.document (notice : Notice) : Json :=
  .object [("success", .boolean notice.success), ("message", .string notice.message)]

namespace Failure

def hint? : Failure → Option String
  | noFiles => some "Pass the staged files to format as arguments"
  | wrapperMissing _ =>
    some
      "Generate one with `mvn wrapper:wrapper` or configure [wrapper] in .spotless-staged.toml"
  | _ => none

def document (failure : Failure) : Json :=
  .object <|
    [("success", .boolean false), ("error", .string failure.message),
      ("exit_code", .integer failure.exitCode)]
      ++ Json.optionalMember "hint" failure.hint?

/-- Whether the report of a run already tells of the failure. -/
def isReported : Failure → Bool
  | notStarted _ _ => true
  | toolFailed _ _ => true
  | _ => false

end Failure

end StagedFormat
