/-!
# JSON documents

The documents that reports are made of: no numbers but whole ones, and members in the order in
which they are written.
-/

set_option autoImplicit false

namespace StagedFormat

inductive Json
  | null
  | boolean (flag : Bool)
  | integer (number : Int)
  | string (text : String)
  | array (items : List Json)
  | object (members : List (String × Json))

namespace Json

def strings (texts : List String) : Json :=
  .array (texts.map .string)

def stringOrNull : Option String → Json
  | some text => .string text
  | none => .null

/-- A member that is left out if there is nothing to say. -/
def optionalMember (name : String) (text : Option String) : List (String × Json) :=
  match text with
  | some text => [(name, .string text)]
  | none => []

end Json

end StagedFormat
