import StagedFormat.Text.Pieces
import StagedFormat.Toml.Digit
import StagedFormat.Toml.Value

/-!
# Values written without quotes

A text outside quotes is a truth value, a number, or a date or a time.  `scalar?` reads a whole
text as one of these.
-/

set_option autoImplicit false

namespace StagedFormat.Toml

/-! ## Digits -/

def isDigitOf (base : Nat) (c : Char) : Bool :=
  match hexDigit? c with
  | some value => value < base
  | none => false

def digitsValue (base : Nat) (digits : List Char) : Nat :=
  digits.foldl (fun value c => value * base + (hexDigit? c).getD 0) 0

def groupedDigits? (base : Nat) (text : List Char) : Option (List Char) :=
  let groups := Text.pieces (· == '_') text
  if groups.all fun group => !group.isEmpty && group.all (isDigitOf base) then some groups.flatten
  else none

def wholeDigits? (text : List Char) : Option (List Char) :=
  (groupedDigits? 10 text).filter fun digits => digits.length == 1 || digits.head? != some '0'

/-- Whether a text has a minus sign in front, and the text without its sign. -/
def splitSign : List Char → Bool × List Char
  | '-' :: rest => (true, rest)
  | '+' :: rest => (false, rest)
  | text => (false, text)

/-! ## Numbers -/

/-- The base that a prefix selects, and the digits after it. -/
def splitBase? : List Char → Option (Nat × List Char)
  | '0' :: 'x' :: digits => some (16, digits)
  | '0' :: 'o' :: digits => some (8, digits)
  | '0' :: 'b' :: digits => some (2, digits)
  | _ => none

/-- A whole number, of whatever size: without a sign in a base selected by a prefix, or decimal. -/
def wholeNumber? (text : List Char) : Option Int :=
  match splitBase? text with
  | some (base, digits) =>
    (groupedDigits? base digits).map fun digits => (digitsValue base digits : Int)
  | none =>
    let (negative, rest) := splitSign text
    (wholeDigits? rest).map fun digits =>
      if negative then -(digitsValue 10 digits : Int) else digitsValue 10 digits

def fraction? : List Char → Option (List Char)
  | '.' :: digits => groupedDigits? 10 digits
  | [] => some []
  | _ => none

def exponent? : List Char → Option Int
  | [] => some 0
  | _ :: text =>
    let (negative, rest) := splitSign text
    (groupedDigits? 10 rest).map fun digits =>
      if negative then -(digitsValue 10 digits : Int) else digitsValue 10 digits

def fractional? (text : List Char) : Option Value :=
  let (negative, rest) := splitSign text
  if rest = "inf".toList then some (.float (.infinite negative))
  else if rest = "nan".toList then some (.float .notANumber)
  else
    let (decimal, scale) := rest.span fun c => c != 'e' && c != 'E'
    let (whole, fraction) := decimal.span (· != '.')
    if scale.isEmpty ∧ fraction.isEmpty then none
    else
      match wholeDigits? whole, fraction? fraction, exponent? scale with
      | some whole, some fraction, some exponent =>
        let number? := Binary64.ofDecimal negative (digitsValue 10 (whole ++ fraction))
          (exponent - fraction.length)
        some (number?.elim .hugeFloat .float)
      | _, _, _ => none

/-! ## Dates and times -/

def isNumberUpTo (bound : Nat) (digits : List Char) : Bool :=
  digits.all Char.isDigit && digitsValue 10 digits ≤ bound

def daysOfMonth (year month : Nat) : Nat :=
  if month = 2 then
    if year % 4 = 0 ∧ (year % 100 ≠ 0 ∨ year % 400 = 0) then 29 else 28
  else if month ∈ [4, 6, 9, 11] then 30
  else 31

def isDate : List Char → Bool
  | [y₁, y₂, y₃, y₄, '-', m₁, m₂, '-', d₁, d₂] =>
    let year := digitsValue 10 [y₁, y₂, y₃, y₄]
    let month := digitsValue 10 [m₁, m₂]
    let day := digitsValue 10 [d₁, d₂]
    [y₁, y₂, y₃, y₄, m₁, m₂, d₁, d₂].all Char.isDigit
      && 1 ≤ month && month ≤ 12 && 1 ≤ day && day ≤ daysOfMonth year month
  | _ => false

def isHourMinute : List Char → Bool
  | [h₁, h₂, ':', m₁, m₂] => isNumberUpTo 23 [h₁, h₂] && isNumberUpTo 59 [m₁, m₂]
  | _ => false

/-- What may follow the minute of a time: nothing, or seconds, which may have a fraction. -/
def isSeconds : List Char → Bool
  | [] => true
  | ':' :: s₁ :: s₂ :: fraction =>
    isNumberUpTo 60 [s₁, s₂] &&
      match fraction with
      | [] => true
      | '.' :: digits => !digits.isEmpty && digits.all Char.isDigit
      | _ => false
  | _ => false

def isTime (text : List Char) : Bool :=
  isHourMinute (text.take 5) && isSeconds (text.drop 5)

def isOffset : List Char → Bool
  | ['Z'] => true
  | ['z'] => true
  | sign :: distance => (sign == '+' || sign == '-') && isHourMinute distance
  | _ => false

def isOffsetTime (text : List Char) : Bool :=
  let (time, offset) := text.span fun c => c.isDigit || c == ':' || c == '.'
  isTime time && (offset.isEmpty || isOffset offset)

/-- A date, a time, or a date and a time with a letter or a space between them. -/
def isDateTime (text : List Char) : Bool :=
  isDate text || isTime text ||
    match text.drop 10 with
    | c :: time =>
      isDate (text.take 10) && (c == 'T' || c == 't' || c == ' ') && isOffsetTime time
    | [] => false

/-! ## Values -/

def scalar? (text : List Char) : Option Value :=
  if text = "true".toList then some (.boolean true)
  else if text = "false".toList then some (.boolean false)
  else if isDateTime text then some .dateTime
  else
    match wholeNumber? text with
    | some number => some (.integer number)
    | none => fractional? text

end StagedFormat.Toml
