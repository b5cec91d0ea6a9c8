import StagedFormat.FilesArgument.PassMode
import StagedFormat.Repository.Whitespace

/-!
# The configuration of a repository

A repository may say in a file at its root how its files are to be formatted.  Everything has a
default, so that a repository without the file is formatted as well.
-/

set_option autoImplicit false

namespace StagedFormat

/-- The kinds of machines that need different wrapper scripts. -/
inductive Platform
  | unix
  | windows
  deriving DecidableEq, Inhabited, Repr

/-- The names of the wrapper script at the root of a repository. -/
structure WrapperNames where
  unix : String := "mvnw"
  windows : String := "mvnw.cmd"
  deriving DecidableEq, Inhabited, Repr

def WrapperNames.on (names : WrapperNames) : Platform → String
  | .unix => names.unix
  | .windows => names.windows

/-- How the build tool is asked to format files. -/
structure Task where
  goal : String := "spotless:apply"
  property : String := "spotlessFiles"
  /-- Whether the build tool runs without asking questions. -/
  batch : Bool := true
  args : List String := []
  deriving DecidableEq, Inhabited, Repr

structure Config where
  mode : PassMode := .paths
  whitespace : WhitespacePolicy := .atLineEnd
  /-- Globs for the files to be formatted; without any, all files are. -/
  included : List String := []
  wrapper : WrapperNames := {}
  task : Task := {}
  deriving DecidableEq, Inhabited, Repr

namespace Config

def fileName : String := ".spotless-staged.toml"

def file (root : Path) : Path :=
  root.join (.ofText fileName)

end Config

end StagedFormat
