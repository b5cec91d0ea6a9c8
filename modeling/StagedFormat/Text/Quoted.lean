import StagedFormat.Text.Printable
import StagedFormat.Text.Combining

/-!
# Quoted text in messages

Messages show a piece of text between double quotes.  What could be misread is escaped: the quote
and the backslash, the common controls by their letters, and every other character that cannot be
printed, or would merge with the one before it, by its code point, as in `\u{300}`.
-/

set_option autoImplicit false

namespace StagedFormat.Text

/-- The escape that gives a character by its code point in hexadecimal digits. -/
def codePointEscape (c : Char) : List Char :=
  '\\' :: 'u' :: '\x7b' :: (Nat.toDigits 16 c.toNat ++ ['\x7d'])

def quoteChar (c : Char) : List Char :=
  if c = '\x00' then ['\\', '0']
  else if c = '\t' then ['\\', 't']
  else if c = '\r' then ['\\', 'r']
  else if c = '\n' then ['\\', 'n']
  else if c = '\\' ∨ c = '"' then ['\\', c]
  else if isExtending c ∨ ¬ isPrintable c then codePointEscape c
  else [c]

def quote (text : String) : String :=
  String.ofList ('"' :: text.toList.flatMap quoteChar ++ ['"'])

/-- A letter, a digit, or another plain ASCII character is written as itself. -/
theorem quoteChar_of_plain (c : Char) (low : 0x20 ≤ c.toNat) (high : c.toNat < 0x7F)
    (quote : c ≠ '"') (backslash : c ≠ '\\') : quoteChar c = [c] := by
  have notControl : ∀ d : Char, d.toNat < 0x20 → c ≠ d := by
    rintro d small rfl
    omega
  simp [quoteChar, notControl '\x00' (by decide), notControl '\t' (by decide),
    notControl '\r' (by decide), notControl '\n' (by decide), quote, backslash,
    isExtending_of_ascii c (by omega), isPrintable_of_ascii c low high]

end StagedFormat.Text
