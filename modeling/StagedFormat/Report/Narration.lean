import StagedFormat.Report.Basic

/-!
# Telling what happens

For people, a run tells what it does while it goes on; for programs, it prints a single document.
Every function here gives the text that is printed at one point of a run.
-/

set_option autoImplicit false

namespace StagedFormat

inductive Audience
  | people
  | programs
  deriving DecidableEq, Inhabited, Repr

structure Narrator where
  audience : Audience
  colored : Bool
  deriving DecidableEq, Repr

namespace Narrator

def line (text : String) : String :=
  text ++ "\n"

def styled (narrator : Narrator) (codes text : String) : String :=
  if narrator.colored then "\x1b[" ++ codes ++ "m" ++ text ++ "\x1b[0m" else text

def tag (narrator : Narrator) : String :=
  narrator.styled "36" "[Spotless]"

def errorTag (narrator : Narrator) : String :=
  narrator.styled "1;31" "[HOOK ERROR]"

def forPeople (narrator : Narrator) (lines : List String) : String :=
  match narrator.audience with
  | .people => String.join (lines.map line)
  | .programs => ""

def forPrograms (narrator : Narrator) (document : Json) : String :=
  match narrator.audience with
  | .people => ""
  | .programs => line document.text

def skipped (narrator : Narrator) (files : List SkippedFile) : String :=
  narrator.forPeople <| files.map fun skipped =>
    narrator.tag ++ " Skipping " ++ skipped.file ++ " (" ++ skipped.reason.text ++ ")"

def nothingToFormat (narrator : Narrator) : String :=
  narrator.forPeople [narrator.tag ++ " No staged files to format."]

def running (narrator : Narrator) (goal filesArgument : String) : String :=
  narrator.forPeople
    ["Running " ++ goal ++ " on staged files...", "Files: " ++ filesArgument]

def dryRun (narrator : Narrator) (commandLine : String) : String :=
  narrator.forPeople [narrator.tag ++ " Dry run, not invoking:", "  " ++ commandLine]

def finish (narrator : Narrator) (report : RunReport) : String :=
  narrator.forPrograms report.document

def notice (narrator : Narrator) (notice : Notice) : String :=
  match narrator.audience with
  | .people => line notice.message
  | .programs => line notice.document.text

/-- The line about a failure.  That no files were named is no error of the hook, so there is no
tag. -/
def failureLine (narrator : Narrator) : Failure → String
  | .noFiles => Failure.noFiles.message
  | failure => narrator.errorTag ++ " " ++ failure.message

/-- Tells of a failure, unless the report of the run has done so. -/
def failure (narrator : Narrator) (failure : Failure) : String :=
  match narrator.audience with
  | .people => line (narrator.failureLine failure)
  | .programs => if failure.isReported then "" else line failure.document.text

end Narrator

end StagedFormat
