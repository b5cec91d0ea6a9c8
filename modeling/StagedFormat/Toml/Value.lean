import StagedFormat.Decimal.Binary64

/-!
# The values of a TOML document

A document is a table.  The entries of a table are kept in the order of their keys, which is the
order of their bytes and of their characters alike.  A document may hold numbers of any size; those
that do not fit into 64 bits do no harm as long as nothing looks at them.
-/

set_option autoImplicit false

namespace StagedFormat.Toml

/-- A value of a document.  Of dates and times only the fact that they are well formed is kept. -/
inductive Value
  | string (text : String)
  /-- A whole number of any size. -/
  | integer (number : Int)
  | float (number : Binary64)
  /-- A number with a fraction or an exponent that is too large for 64 bits. -/
  | hugeFloat
  | boolean (flag : Bool)
  | dateTime
  | array (items : List Value)
  | table (entries : List (String × Value))

/-- The entries of a table, one for each key, in the order of the keys. -/
abbrev Table := List (String × Value)

def insertEntry (key : String) (value : Value) : Table → Table
  | [] => [(key, value)]
  | (other, held) :: rest =>
    if key < other then (key, value) :: (other, held) :: rest
    else (other, held) :: insertEntry key value rest

/-! ## Numbers that are too large -/

def fits (number : Int) : Bool :=
  -Int.pow 2 63 ≤ number && number < Int.pow 2 63

mutual

/-- Whether all numbers of a value fit into 64 bits. -/
def Value.isInRange : Value → Bool
  | .integer number => fits number
  | .hugeFloat => false
  | .array items => allInRange items
  | .table entries => entriesInRange entries
  | _ => true

def allInRange : List Value → Bool
  | [] => true
  | value :: rest => value.isInRange && allInRange rest

def entriesInRange : List (String × Value) → Bool
  | [] => true
  | (_, value) :: rest => value.isInRange && entriesInRange rest

end

end StagedFormat.Toml
