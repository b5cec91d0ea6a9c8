/-!
# Floating-point numbers with 64 bits

A finite number is a whole multiple of a power of two.  `ofDecimal` finds the number nearest to a
decimal, and of two equally near ones the even one.  `text` writes the fewest digits that lead back
to the same number, and of these the nearest ones, with a point and without an exponent.
-/

set_option autoImplicit false

namespace StagedFormat

/-- A floating-point number with a sign, 53 bits of mantissa and 11 bits of exponent. -/
inductive Binary64
  /-- The number `mantissa * 2 ^ exponent`, or its negative. -/
  | finite (negative : Bool) (mantissa : Nat) (exponent : Int)
  | infinite (negative : Bool)
  | notANumber
  deriving DecidableEq, Repr

namespace Binary64

def lowestExponent : Int := -1074

def highestExponent : Int := 971

/-- The quotient `numerator / denominator`, rounded to the nearest whole number, a half to the
even one. -/
def roundQuotient (numerator denominator : Nat) : Nat :=
  let quotient := numerator / denominator
  let twice := 2 * (numerator % denominator)
  if twice < denominator then quotient
  else if denominator < twice then quotient + 1
  else if quotient % 2 = 0 then quotient else quotient + 1

def scaled (numerator denominator : Nat) (exponent : Int) : Nat × Nat :=
  if 0 ≤ exponent then (numerator * Nat.pow 2 exponent.toNat, denominator)
  else (numerator, denominator * Nat.pow 2 (-exponent).toNat)

/-- The positive number nearest to a fraction, or `none` if that is too large. -/
def ofFraction (negative : Bool) (numerator denominator : Nat) : Option Binary64 :=
  let guess : Int := (Nat.log2 numerator : Int) - Nat.log2 denominator - 53
  let exponent := max guess lowestExponent
  let (n, d) := scaled numerator denominator (-exponent)
  let exponent := if Nat.pow 2 53 ≤ n / d then exponent + 1 else exponent
  let (n, d) := scaled numerator denominator (-exponent)
  let rounded := roundQuotient n d
  let (mantissa, exponent) :=
    if rounded = Nat.pow 2 53 then (Nat.pow 2 52, exponent + 1) else (rounded, exponent)
  if highestExponent < exponent then none else some (finite negative mantissa exponent)

/-- The number nearest to `digits * 10 ^ exponent`, or `none` if that is too large. -/
def ofDecimal (negative : Bool) (digits : Nat) (exponent : Int) : Option Binary64 :=
  let size : Int := exponent + (Nat.toDigits 10 digits).length
  if digits = 0 ∨ size < -330 then some (finite negative 0 lowestExponent)
  else if 310 < size then none
  else if 0 ≤ exponent then ofFraction negative (digits * Nat.pow 10 exponent.toNat) 1
  else ofFraction negative digits (Nat.pow 10 (-exponent).toNat)

def belowPower (numerator denominator : Nat) (power : Int) : Bool :=
  if 0 ≤ power then numerator < denominator * Nat.pow 10 power.toNat
  else numerator * Nat.pow 10 (-power).toNat < denominator

/-- The power of ten just above a fraction: the first one that exceeds it. -/
def decimalSize (numerator denominator : Nat) : Int :=
  let bits : Int := (Nat.log2 numerator : Int) - Nat.log2 denominator
  let guess : Int := (bits - 1) * 30103 / 100000
  (List.range 4).foldl
    (fun size _ => if belowPower numerator denominator size then size else size + 1) guess

/-- A decimal with the given number of digits that rounds to the number `mantissa * 2 ^ exponent`,
and the nearest such, of two equally near ones the larger: the digits, and the power of ten they
are multiplied by. -/
def decimalWith? (mantissa : Nat) (exponent : Int) (count : Nat) : Option (Nat × Int) :=
  let narrow := mantissa = Nat.pow 2 52 ∧ lowestExponent < exponent
  let (value, unit) := scaled (4 * mantissa) 4 exponent
  let (below, _) := scaled (if narrow then 4 * mantissa - 1 else 4 * mantissa - 2) 4 exponent
  let (above, _) := scaled (4 * mantissa + 2) 4 exponent
  let power := decimalSize value unit - count
  let tens := Nat.pow 10 power.natAbs
  -- everything in units of one tenth-power step
  let (value, below, above, unit) :=
    if 0 ≤ power then (value, below, above, unit * tens)
    else (value * tens, below * tens, above * tens, unit)
  let inside (digits : Nat) : Bool :=
    if mantissa % 2 = 0 then below ≤ digits * unit ∧ digits * unit ≤ above
    else below < digits * unit ∧ digits * unit < above
  let lower := value / unit
  let upper := lower + 1
  let rounded := if upper = Nat.pow 10 count then (1, power + count) else (upper, power)
  match inside lower, inside upper with
  | true, true => if 2 * (value % unit) < unit then some (lower, power) else some rounded
  | true, false => some (lower, power)
  | false, true => some rounded
  | false, false => none

/-- The decimal with the fewest digits that rounds to the number. -/
def shortestDecimal (mantissa : Nat) (exponent : Int) : Nat × Int :=
  ((List.range 17).findSome? fun count => decimalWith? mantissa exponent (count + 1)).getD (0, 0)

def positional (digits : Nat) (power : Int) : List Char :=
  let written := Nat.toDigits 10 digits
  if 0 ≤ power then written ++ List.replicate power.toNat '0' ++ ['.', '0']
  else
    let places := (-power).toNat
    let padded := List.replicate (places + 1 - written.length) '0' ++ written
    let whole := padded.take (padded.length - places)
    let fraction := padded.drop (padded.length - places)
    whole ++ '.' :: fraction

def text : Binary64 → String
  | notANumber => "NaN"
  | infinite negative => if negative then "-inf" else "inf"
  | finite negative mantissa exponent =>
    let digits :=
      if mantissa = 0 then ['0', '.', '0']
      else
        let (digits, power) := shortestDecimal mantissa exponent
        positional digits power
    String.ofList (if negative then '-' :: digits else digits)

end Binary64

end StagedFormat
