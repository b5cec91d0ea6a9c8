import StagedFormat.Failure
import StagedFormat.Glob.Compile
import StagedFormat.Glob.Match

/-!
# Settings of a run

Settings are what a configuration comes to once its globs have been read.  They decide which files
are considered at all.
-/

set_option autoImplicit false

namespace StagedFormat

/-- What a run needs to know to choose files and to name them. -/
structure Settings where
  mode : PassMode
  whitespace : WhitespacePolicy
  globs : List Glob
  goal : String
  deriving DecidableEq, Repr

def forwardSlashes (file : List Char) : List Char :=
  file.map fun c => if c = '\\' then '/' else c

def Settings.includes (settings : Settings) (file : String) : Bool :=
  settings.globs.isEmpty
    || settings.globs.any fun glob => glob.accepts (forwardSlashes file.toList)

def Config.compileGlob (source : String) : Except ConfigProblem Glob :=
  match Glob.compile source with
  | .ok glob => .ok glob
  | .error error => .error (.badGlob source error)

def Config.settings (config : Config) : Except Failure Settings :=
  match config.included.mapM Config.compileGlob with
  | .error problem => .error (.configuration problem)
  | .ok globs =>
    .ok { mode := config.mode, whitespace := config.whitespace, globs, goal := config.task.goal }

end StagedFormat
