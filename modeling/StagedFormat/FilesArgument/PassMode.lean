import StagedFormat.FilesArgument.Pattern
import StagedFormat.World.Path

/-!
# How files are handed to the formatter

The formatter takes one argument that names all files, separated by commas.  Each entry is either
an absolute path or a regular expression for it.
-/

set_option autoImplicit false

namespace StagedFormat

/-- How a file is written in the argument for the formatter. -/
inductive PassMode
  /-- As a path under the root of the repository. -/
  | paths
  /-- As a regular expression that matches the path with either separator. -/
  | patterns
  deriving DecidableEq, Inhabited, Repr

namespace PassMode

def name : PassMode → String
  | paths => "paths"
  | patterns => "patterns"

/-- The mode that a user asks for, in singular or plural and in any case.  No letter beyond ASCII
has a lower case among the letters of these words. -/
def parse? (text : String) : Option PassMode :=
  let word := text.toList.map Char.toLower
  if word = "paths".toList ∨ word = "path".toList then some paths
  else if word = "patterns".toList ∨ word = "pattern".toList then some patterns
  else none

def refusal (text : String) : String :=
  "Invalid mode: " ++ text ++ ". Use: paths, patterns"

def render (mode : PassMode) (root : Path) (file : String) : String :=
  match mode with
  | paths => (root.join (Path.ofText file)).toText
  | patterns => FilesArgument.matchPattern file

def join (mode : PassMode) (root : Path) (files : List String) : String :=
  ",".intercalate (files.map (mode.render root))

theorem parse?_name (mode : PassMode) : parse? mode.name = some mode := by
  cases mode <;> decide

end PassMode

end StagedFormat
