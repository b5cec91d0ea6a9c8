import StagedFormat.Text.Pieces
import StagedFormat.Text.Utf8

/-!
# File paths

A path is a sequence of bytes in which the slash separates names; it need not be text.  Joining
follows one rule: an absolute path replaces what it is joined to, and a slash is put in between
unless the left side is empty or ends with one already.
-/

set_option autoImplicit false

namespace StagedFormat

/-- A file path: any bytes, not necessarily text. -/
structure Path where
  bytes : List UInt8
  deriving DecidableEq, Inhabited, Repr

namespace Path

def slash : UInt8 := 0x2F

def ofText (text : String) : Path :=
  ⟨Text.bytesOf text⟩

/-- The path as it is shown, bytes that are no text as U+FFFD. -/
def toText (path : Path) : String :=
  Text.ofBytes path.bytes

def isAbsolute (path : Path) : Bool :=
  path.bytes.head? == some slash

/-- Whether a path that is joined on has to be set off by a slash. -/
def needsSlash (path : Path) : Bool :=
  match path.bytes.getLast? with
  | none => false
  | some last => last != slash

/-- The path `other` as seen from the directory `path`. -/
def join (path other : Path) : Path :=
  if other.isAbsolute then other
  else if path.needsSlash then ⟨path.bytes ++ slash :: other.bytes⟩
  else ⟨path.bytes ++ other.bytes⟩

/-- The names of a path, in order.  A slash at either end, or next to another one, leaves an empty
name. -/
def names (path : Path) : List (List UInt8) :=
  Text.pieces (· == slash) path.bytes

theorem join_of_isAbsolute (path other : Path) (absolute : other.isAbsolute = true) :
    path.join other = other := by
  simp [join, absolute]

theorem join_empty (other : Path) : join ⟨[]⟩ other = other := by
  simp [join, needsSlash]

end Path

end StagedFormat
