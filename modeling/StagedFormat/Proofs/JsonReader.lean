import StagedFormat.Json.Printer

/-!
# Reading JSON

A text is read in two passes: characters become tokens, and tokens become a document.  The reader
takes any spelling that the grammar allows, with blanks between tokens and all escapes in strings.
It refuses fractions and exponents, since the documents have none.
-/

set_option autoImplicit false

namespace StagedFormat.Json

/-! ## Tokens -/

/-- The tokens of a document.  A scalar is a document that has no parts. -/
inductive Token
  | openArray
  | closeArray
  | openObject
  | closeObject
  | comma
  | colon
  | scalar (value : Json)

def isBlank (c : Char) : Bool :=
  c == ' ' || c == '\t' || c == '\n' || c == '\r'

def isWordChar (c : Char) : Bool :=
  c.isAlphanum || c == '-' || c == '+' || c == '.'

def mark? (c : Char) : Option Token :=
  match c with
  | '[' => some .openArray
  | ']' => some .closeArray
  | '\x7b' => some .openObject
  | '\x7d' => some .closeObject
  | ',' => some .comma
  | ':' => some .colon
  | _ => none

def natural? (digits : List Char) : Option Nat :=
  if digits.all Char.isDigit ∧ (digits = ['0'] ∨ digits ≠ [] ∧ digits.head? ≠ some '0') then
    some (Nat.ofDigitChars 10 digits 0)
  else none

def integer? : List Char → Option Int
  | '-' :: digits => (natural? digits).map fun (size : Nat) => -(size : Int)
  | digits => (natural? digits).map fun (size : Nat) => (size : Int)

def word? (letters : List Char) : Option Json :=
  if letters = "null".toList then some .null
  else if letters = "true".toList then some (.boolean true)
  else if letters = "false".toList then some (.boolean false)
  else (integer? letters).map .integer

def escape? (c : Char) : Option Char :=
  match c with
  | '"' => some '"'
  | '\\' => some '\\'
  | '/' => some '/'
  | 'b' => some '\x08'
  | 'f' => some '\x0c'
  | 'n' => some '\n'
  | 'r' => some '\r'
  | 't' => some '\t'
  | _ => none

def hexValue? (c : Char) : Option Nat :=
  if c.isDigit then some (c.toNat - '0'.toNat)
  else if 'a' ≤ c ∧ c ≤ 'f' then some (c.toNat - 'a'.toNat + 10)
  else if 'A' ≤ c ∧ c ≤ 'F' then some (c.toNat - 'A'.toNat + 10)
  else none

/-- Where in a token the reader is.  What has been read of a word or a string is kept with the last
character first; `high` is the first half of a character that is escaped in two halves. -/
inductive Mode
  | between
  | word (letters : List Char)
  | quoted (text : List Char)
  | escaped (high : Option Nat) (text : List Char)
  | hex (high : Option Nat) (count value : Nat) (text : List Char)
  /-- Behind the first half of a character. -/
  | paired (high : Nat) (text : List Char)

def readBetween (c : Char) : Option (List Token × Mode) :=
  if isBlank c then some ([], .between)
  else if c = '"' then some ([], .quoted [])
  else if isWordChar c then some ([], .word [c])
  else (mark? c).map fun token => ([token], .between)

/-- The mode after the four digits of an escape.  The halves of a character come in pairs. -/
def afterHex (high : Option Nat) (value : Nat) (text : List Char) : Option Mode :=
  match high with
  | none =>
    if 0xD800 ≤ value ∧ value < 0xDC00 then some (.paired value text)
    else if 0xDC00 ≤ value ∧ value < 0xE000 then none
    else some (.quoted (Char.ofNat value :: text))
  | some high =>
    if 0xDC00 ≤ value ∧ value < 0xE000 then
      some (.quoted
        (Char.ofNat (0x10000 + (high - 0xD800) * 0x400 + (value - 0xDC00)) :: text))
    else none

/-- Reads one character: the tokens that are complete, and where the reader is now. -/
def Mode.read : Mode → Char → Option (List Token × Mode)
  | between, c => readBetween c
  | word letters, c =>
    if isWordChar c then some ([], word (c :: letters))
    else do
      let value ← word? letters.reverse
      let (found, next) ← readBetween c
      some (.scalar value :: found, next)
  | quoted text, c =>
    if c = '"' then some ([.scalar (.string (String.ofList text.reverse))], between)
    else if c = '\\' then some ([], escaped none text)
    else if c.toNat < 0x20 then none
    else some ([], quoted (c :: text))
  | escaped none text, c =>
    if c = 'u' then some ([], hex none 0 0 text)
    else (escape? c).map fun meant => ([], quoted (meant :: text))
  | escaped (some high) text, c =>
    if c = 'u' then some ([], hex (some high) 0 0 text) else none
  | hex high count value text, c => do
    let digit ← hexValue? c
    if count < 3 then some ([], hex high (count + 1) (value * 16 + digit) text)
    else
      let next ← afterHex high (value * 16 + digit) text
      some ([], next)
  | paired high text, c => if c = '\\' then some ([], escaped (some high) text) else none

def tokensFrom : Mode → List Char → Option (List Token)
  | .between, [] => some []
  | .word letters, [] => (word? letters.reverse).map fun value => [.scalar value]
  | _, [] => none
  | mode, c :: rest => do
    let (found, next) ← mode.read c
    let later ← tokensFrom next rest
    some (found ++ later)

/-! ## Documents -/

/-- An array or an object of which some parts have been read, the last one first. -/
inductive Frame
  | array (items : List Json)
  | object (members : List (String × Json)) (name : String)

/-- What has to follow, in which arrays and objects. -/
inductive Expecting
  | value (stack : List Frame)
  /-- A first item, or the end of an array. -/
  | first (stack : List Frame)
  /-- A name; without members, it may also be the end of an object. -/
  | name (stack : List Frame) (members : List (String × Json))
  | colon (stack : List Frame) (members : List (String × Json)) (name : String)
  /-- Whatever follows a value that is complete. -/
  | after (stack : List Frame) (value : Json)

def begin (stack : List Frame) : Token → Option Expecting
  | .scalar value => some (.after stack value)
  | .openArray => some (.first stack)
  | .openObject => some (.name stack [])
  | _ => none

def Expecting.step : Expecting → Token → Option Expecting
  | value stack, token => begin stack token
  | first stack, .closeArray => some (after stack (.array []))
  | first stack, token => begin (.array [] :: stack) token
  | name stack [], .closeObject => some (after stack (.object []))
  | name stack members, .scalar (.string text) => some (colon stack members text)
  | colon stack members text, .colon => some (value (.object members text :: stack))
  | after (.array items :: stack) item, .comma => some (value (.array (item :: items) :: stack))
  | after (.array items :: stack) item, .closeArray =>
    some (after stack (.array (item :: items).reverse))
  | after (.object members text :: stack) item, .comma =>
    some (name stack ((text, item) :: members))
  | after (.object members text :: stack) item, .closeObject =>
    some (after stack (.object ((text, item) :: members).reverse))
  | _, _ => none

def read? (text : List Char) : Option Json := do
  let tokens ← tokensFrom .between text
  match ← tokens.foldlM Expecting.step (.value []) with
  | .after [] document => some document
  | _ => none

end StagedFormat.Json
