import StagedFormat.Json.Basic

/-!
# Printing JSON

A document is printed over several lines.  What is inside an array or an object stands two spaces
further to the right, one item or member on a line; empty arrays and objects stand on one line.
-/

set_option autoImplicit false

namespace StagedFormat.Json

def controlEscape (c : Char) : List Char :=
  let digits := Nat.toDigits 16 c.toNat
  '\\' :: 'u' :: (List.replicate (4 - digits.length) '0' ++ digits)

def escapeChar (c : Char) : List Char :=
  if c = '"' ∨ c = '\\' then ['\\', c]
  else if c = '\n' then ['\\', 'n']
  else if c = '\r' then ['\\', 'r']
  else if c = '\t' then ['\\', 't']
  else if c = '\x08' then ['\\', 'b']
  else if c = '\x0c' then ['\\', 'f']
  else if c.toNat < 0x20 then controlEscape c
  else [c]

def printString (text : String) : List Char :=
  '"' :: text.toList.flatMap escapeChar ++ ['"']

/-- A line end, and the space that a line at some depth begins with. -/
def newLine (depth : Nat) : List Char :=
  '\n' :: List.replicate (2 * depth) ' '

mutual

def print (depth : Nat) : Json → List Char
  | .null => "null".toList
  | .boolean flag => if flag then "true".toList else "false".toList
  | .integer number => (toString number).toList
  | .string text => printString text
  | .array [] => "[]".toList
  | .array (first :: rest) =>
    '[' :: newLine (depth + 1) ++ print (depth + 1) first ++ printItems (depth + 1) rest
      ++ newLine depth ++ [']']
  | .object [] => "\x7b\x7d".toList
  | .object ((name, value) :: rest) =>
    '\x7b' :: newLine (depth + 1) ++ printString name ++ ": ".toList ++ print (depth + 1) value
      ++ printMembers (depth + 1) rest ++ newLine depth ++ ['\x7d']

def printItems (depth : Nat) : List Json → List Char
  | [] => []
  | item :: rest => ',' :: newLine depth ++ print depth item ++ printItems depth rest

def printMembers (depth : Nat) : List (String × Json) → List Char
  | [] => []
  | (name, value) :: rest =>
    ',' :: newLine depth ++ printString name ++ ": ".toList ++ print depth value
      ++ printMembers depth rest

end

def text (document : Json) : String :=
  String.ofList (document.print 0)

end StagedFormat.Json
