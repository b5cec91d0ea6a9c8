/-!
# Whitespace that does not count

A staged change is only worth formatting if it is more than whitespace.  A policy says which
differences in whitespace are left aside when the changes of a file are counted.
-/

set_option autoImplicit false

namespace StagedFormat

/-- Which differences in whitespace do not count as changes. -/
inductive WhitespacePolicy
  | atLineEnd
  | anywhere
  deriving DecidableEq, Inhabited, Repr

namespace WhitespacePolicy

def name : WhitespacePolicy → String
  | atLineEnd => "eol"
  | anywhere => "all"

def flag : WhitespacePolicy → String
  | atLineEnd => "--ignore-space-at-eol"
  | anywhere => "--ignore-all-space"

end WhitespacePolicy

end StagedFormat
