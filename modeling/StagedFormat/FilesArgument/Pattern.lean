import StagedFormat.Text.Pieces

/-!
# A regular expression for a file

`matchPattern` turns the path of a file, relative to the repository, into a regular expression for
its absolute path.  The expression is the same for every spelling of the path: slashes and
backslashes both separate, and empty names and the name `.` do not count.
-/

set_option autoImplicit false

namespace StagedFormat.FilesArgument

def isMeta (c : Char) : Bool :=
  "\\.+*?()|[]\x7b\x7d^$#&-~".toList.contains c

def escape (text : List Char) : List Char :=
  text.flatMap fun c => if isMeta c then ['\\', c] else [c]

def isSeparator (c : Char) : Bool :=
  c == '/' || c == '\\'

/-- The names that a path consists of, however it is spelled. -/
def segments (path : List Char) : List (List Char) :=
  (Text.pieces isSeparator path).filter fun piece => piece ≠ [] ∧ piece ≠ ['.']

def separatorClass : List Char := "[\\\\/]".toList

/-- The regular expression for a file: anything, a separator, and the names of the path with a
separator between any two. -/
def matchPattern (path : String) : String :=
  String.ofList
    (".*".toList ++ separatorClass
      ++ separatorClass.intercalate ((segments path.toList).map escape))

end StagedFormat.FilesArgument
