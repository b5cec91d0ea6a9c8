import StagedFormat.Text.Blank
import StagedFormat.Text.Pieces

/-!
# Counts of changed lines

The counts of a comparison come as lines of fields between tabs: the lines added, the lines
removed, and the name of the file.  Files that have no lines show a dash for both counts.
-/

set_option autoImplicit false

namespace StagedFormat.Numstat

def isNonzero (field : List Char) : Bool :=
  Text.trim field != ['0']

/-- Whether a line reports a change.  A line without a tab reports nothing. -/
def lineHasChanges (line : List Char) : Bool :=
  match Text.pieces (· == '\t') line with
  | added :: removed :: _ => isNonzero added || isNonzero removed
  | _ => false

def hasChanges (text : List Char) : Bool :=
  (Text.lines text).any lineHasChanges

end StagedFormat.Numstat
