import StagedFormat.Config.Shape
import StagedFormat.Glob.Basic
import StagedFormat.World.AccessError

/-!
# Why a run fails

A run fails for one of a few reasons.  Each has a message for the user and an exit code.
-/

set_option autoImplicit false

namespace StagedFormat

inductive ConfigProblem
  /-- The text is no TOML document, and this is how that was worded. -/
  | malformed (message : String)
  | shape (error : Config.ShapeError)
  /-- A value in the file has the wrong shape, and some number in it needs more than 64 bits. -/
  | beyondRange (error : Config.ShapeError)
  | unreadable (file : Path) (error : AccessError)
  | badGlob (glob : String) (error : Glob.Error)
  | described (text : String)

def ConfigProblem.text : ConfigProblem → String
  | malformed message => Config.fileName ++ ": " ++ message
  | shape error => Config.fileName ++ ": " ++ error.message
  | beyondRange error => Config.fileName ++ ": " ++ error.message
  | unreadable file error => file.toText ++ ": " ++ error.message
  | badGlob glob error => "invalid include pattern " ++ Text.quote glob ++ ": " ++ error.message
  | described text => text

/-- Why something beyond this program failed: what was attempted, and then the reasons behind it,
the innermost last. -/
structure Trouble where
  headline : String
  causes : List String
  deriving DecidableEq, Repr

namespace Trouble

def of (headline : String) : Trouble := ⟨headline, []⟩

def chain (trouble : Trouble) : String :=
  ": ".intercalate (trouble.headline :: trouble.causes)

end Trouble

inductive Failure
  | noFiles
  | notARepository (reason : String)
  | wrapperMissing (expected : Path)
  | configuration (problem : ConfigProblem)
  | notStarted (wrapper : Path) (reason : String)
  /-- The build tool ran and did not succeed. -/
  | toolFailed (goal : String) (code : Int)
  | other (trouble : Trouble)

namespace Failure

def message : Failure → String
  | noFiles => "No files provided."
  | notARepository reason => "Not a git repository: " ++ reason
  | wrapperMissing expected => "Maven Wrapper not found! Expected it at " ++ expected.toText
  | configuration problem => "Invalid configuration: " ++ problem.text
  | notStarted wrapper reason => "Failed to run " ++ wrapper.toText ++ ": " ++ reason
  | toolFailed goal code => goal ++ " failed with exit code " ++ toString code
  | other trouble => trouble.headline

/-- The exit code that the failure asks for: that of the build tool if it ran, and 1 otherwise. -/
def exitCode : Failure → Int
  | toolFailed _ code => if code = 0 then 1 else code
  | _ => 1

/-- The failure for whoever looks for its cause. -/
def details : Failure → String
  | noFiles => "NoFiles"
  | notARepository reason => "NotARepository(" ++ Text.quote reason ++ ")"
  | wrapperMissing expected => "WrapperMissing(" ++ Text.quote expected.toText ++ ")"
  | configuration problem => "Config(" ++ Text.quote problem.text ++ ")"
  | notStarted wrapper reason =>
    "Spawn \x7b wrapper: " ++ Text.quote wrapper.toText ++ ", message: " ++ Text.quote reason
      ++ " \x7d"
  | toolFailed goal code =>
    "ToolFailed \x7b goal: " ++ Text.quote goal ++ ", code: " ++ toString code ++ " \x7d"
  | other trouble => "Other(" ++ trouble.chain ++ ")"

theorem exitCode_ne_zero (failure : Failure) : failure.exitCode ≠ 0 := by
  cases failure with
  | toolFailed goal code =>
    simp only [exitCode]
    split <;> simp_all
  | _ => simp [exitCode]

end Failure

end StagedFormat
