/-!
# Hexadecimal digits

The digits of numbers in every base up to sixteen, and of escapes in quoted strings.
-/

set_option autoImplicit false

namespace StagedFormat.Toml

def hexDigit? (c : Char) : Option Nat :=
  if '0' ≤ c ∧ c ≤ '9' then some (c.toNat - 48)
  else if 'a' ≤ c ∧ c ≤ 'f' then some (c.toNat - 87)
  else if 'A' ≤ c ∧ c ≤ 'F' then some (c.toNat - 55)
  else none

end StagedFormat.Toml
