import StagedFormat.Toml.Draft
import StagedFormat.Toml.Scalar
import StagedFormat.Toml.Token

/-!
# Documents

`document?` reads a text as a table.  The reader takes one token after the other; it remembers
the arrays and inline tables that are open, the table that the last header began, and what may
come next.
-/

set_option autoImplicit false

namespace StagedFormat.Toml

inductive KeyRole
  | entry
  | header
  | elementHeader
  deriving DecidableEq, Repr

/-- What may come next.  `equals` is the equals sign of an entry on a later line than its key, and
`headerEnd` the second bracket behind the header of an array of tables.  Of keys and scalars the
parts so far are kept, the last one first. -/
inductive Expectation
  | line
  | header
  | keyPart (role : KeyRole) (parts : List String)
  | keyEnd (role : KeyRole) (last : String) (parts : List String)
  | equals (last : String) (parts : List String)
  | headerEnd (path : List String) (key : String)
  | value
  | scalar (reversed : List Char)
  | entry
  | separator

/-- Something that waits for a value or for its end.  The items of an array are kept with the last
one first. -/
inductive Frame
  | key (path : List String) (key : String)
  | array (items : List Value)
  | inlineTable (entries : Draft)

structure Reader where
  root : Draft
  current : List String
  frames : List Frame
  expectation : Expectation

def nestingLimit : Nat := 80

def keyLimit : Nat := 80

namespace Frame

def isContainer : Frame → Bool
  | .key _ _ => false
  | .array _ => true
  | .inlineTable _ => true

end Frame

def isBare (c : Char) : Bool :=
  c.isAlphanum || c == '_' || c == '-'

def Token.keyPart? : Token → Option String
  | .atom text => if text.all isBare then some (String.ofList text) else none
  | .quoted false content => some (String.ofList content)
  | _ => none

namespace Reader

def start : Reader := ⟨[], [], [], .line⟩

def expecting (reader : Reader) (expectation : Expectation) : Reader :=
  { reader with expectation }

def openContainer (reader : Reader) (frame : Frame) (expectation : Expectation) : Option Reader :=
  if (reader.frames.filter Frame.isContainer).length < nestingLimit then
    some { reader with frames := frame :: reader.frames, expectation }
  else none

def takeKeyPart (reader : Reader) (role : KeyRole) (parts : List String) (token : Token) :
    Option Reader :=
  if parts.length < keyLimit then
    token.keyPart?.map fun part => reader.expecting (.keyEnd role part parts)
  else none

def finishValue (reader : Reader) (value : Value) : Option Reader :=
  match reader.frames with
  | .key path key :: .inlineTable entries :: outer =>
    (entries.addValue path key value).map fun entries =>
      { reader with frames := .inlineTable entries :: outer, expectation := .separator }
  | .key path key :: outer =>
    (reader.root.within false
        (fun _ table => table.addValue path key value) reader.current .header).map fun root =>
      { reader with root, frames := outer, expectation := .separator }
  | .array items :: outer =>
    some { reader with frames := .array (value :: items) :: outer, expectation := .separator }
  | _ => none

def enter (reader : Reader) (path : List String) (key : String) (root : Option Draft) :
    Option Reader :=
  root.map fun root =>
    { reader with root, current := path ++ [key], frames := [], expectation := .separator }

def closeArray (reader : Reader) : Option Reader :=
  match reader.frames with
  | .array items :: outer => finishValue { reader with frames := outer } (.array items.reverse)
  | _ => none

def closeInlineTable (reader : Reader) : Option Reader :=
  match reader.frames with
  | .inlineTable entries :: outer =>
    finishValue { reader with frames := outer } (.table entries.close)
  | _ => none

/-- Whether line ends and comments may stand before the next value: in an array, and behind the
equals sign in an inline table. -/
def valueMayFollowLater (reader : Reader) : Bool :=
  match reader.frames with
  | .array _ :: _ => true
  | .key _ _ :: .inlineTable _ :: _ => true
  | _ => false

def inInlineTable (reader : Reader) : Bool :=
  match reader.frames with
  | .inlineTable _ :: _ => true
  | _ => false

def assign (reader : Reader) (last : String) (parts : List String) : Reader :=
  { reader with frames := .key parts.reverse last :: reader.frames, expectation := .value }

def takeLine (reader : Reader) : Token → Option Reader
  | .blank _ | .comment | .newline => some reader
  | .openBracket => some (reader.expecting .header)
  | token => reader.takeKeyPart .entry [] token

/-- Takes what follows a key.  In an inline table, the equals sign may stand on a later line. -/
def takeKeyEnd (reader : Reader) (role : KeyRole) (last : String) (parts : List String) :
    Token → Option Reader
  | .blank _ => some reader
  | .dot => some (reader.expecting (.keyPart role (last :: parts)))
  | .newline | .comment =>
    if role = .entry ∧ reader.inInlineTable then some (reader.expecting (.equals last parts))
    else none
  | .equals => if role = .entry then some (reader.assign last parts) else none
  | .closeBracket =>
    match role with
    | .entry => none
    | .header => reader.enter parts.reverse last (reader.root.addTable parts.reverse last)
    | .elementHeader => some (reader.expecting (.headerEnd parts.reverse last))
  | _ => none

def takeEquals (reader : Reader) (last : String) (parts : List String) : Token → Option Reader
  | .blank _ | .newline | .comment => some reader
  | .equals => some (reader.assign last parts)
  | _ => none

def takeValue (reader : Reader) : Token → Option Reader
  | .blank _ => some reader
  | .newline | .comment => if reader.valueMayFollowLater then some reader else none
  | .closeBracket => reader.closeArray
  | .openBracket => reader.openContainer (.array []) .value
  | .openBrace => reader.openContainer (.inlineTable []) .entry
  | .quoted _ content => reader.finishValue (.string (String.ofList content))
  | .atom text => some (reader.expecting (.scalar text.reverse))
  | .dot => some (reader.expecting (.scalar ['.']))
  | .equals | .comma | .closeBrace => none

def takeEntry (reader : Reader) : Token → Option Reader
  | .blank _ | .newline | .comment => some reader
  | .closeBrace => reader.closeInlineTable
  | token => reader.takeKeyPart .entry [] token

def takeSeparator (reader : Reader) : Token → Option Reader
  | .blank _ | .comment => some reader
  | .newline => some (if reader.frames.isEmpty then reader.expecting .line else reader)
  | .comma =>
    match reader.frames with
    | .array _ :: _ => some (reader.expecting .value)
    | .inlineTable _ :: _ => some (reader.expecting .entry)
    | _ => none
  | .closeBracket => reader.closeArray
  | .closeBrace => reader.closeInlineTable
  | _ => none

/-- Takes more of a text outside quotes, in which only a single space can stand, or what follows
it. -/
def takeScalar (reader : Reader) (reversed : List Char) : Token → Option Reader
  | .atom more | .blank more => some (reader.expecting (.scalar (more.reverseAux reversed)))
  | .dot => some (reader.expecting (.scalar ('.' :: reversed)))
  | token =>
    (scalar? (reversed.dropWhile isSpace).reverse).bind fun value =>
      (reader.finishValue value).bind fun reader => reader.takeSeparator token

def take (reader : Reader) (token : Token) : Option Reader :=
  match reader.expectation with
  | .line => reader.takeLine token
  | .header =>
    if token = .openBracket then some (reader.expecting (.keyPart .elementHeader []))
    else if token matches .blank _ then some (reader.expecting (.keyPart .header []))
    else reader.takeKeyPart .header [] token
  | .keyPart role parts =>
    if token matches .blank _ then some reader else reader.takeKeyPart role parts token
  | .keyEnd role last parts => reader.takeKeyEnd role last parts token
  | .equals last parts => reader.takeEquals last parts token
  | .headerEnd path key =>
    if token = .closeBracket then reader.enter path key (reader.root.addElement path key) else none
  | .value => reader.takeValue token
  | .scalar reversed => reader.takeScalar reversed token
  | .entry => reader.takeEntry token
  | .separator => reader.takeSeparator token

def finish (reader : Reader) : Option Table :=
  match reader.expectation, reader.frames with
  | .line, [] => some reader.root.close
  | _, _ => none

end Reader

def withoutMark : List Char → List Char
  | '\uFEFF' :: rest => rest
  | text => text

/-- The table that a text describes, unless the text is malformed.  The end of the text also ends
its last line. -/
def document? (text : List Char) : Option Table :=
  (tokens (withoutMark text)).bind fun found =>
    ((found ++ [Token.newline]).foldlM Reader.take Reader.start).bind Reader.finish

end StagedFormat.Toml
