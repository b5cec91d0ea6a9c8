import StagedFormat.Terminal.Plain

/-!
# Styles of terminal output

A style sets a piece of text apart by sequences before and behind it.  Where the output cannot be
styled, the whole text is written plainly.
-/

set_option autoImplicit false

namespace StagedFormat.Terminal

def sequence (codes : String) : String :=
  "\x1b[" ++ codes ++ "m"

def reset : String := sequence "0"

inductive Style
  | heading
  | literal
  | invalid
  | valid
  | error
  deriving DecidableEq, Repr

namespace Style

def codes : Style → List String
  | heading => ["1", "4"]
  | literal => ["1"]
  | invalid => ["33"]
  | valid => ["32"]
  | error => ["1", "31"]

def apply (style : Style) (text : String) : String :=
  String.join (style.codes.map sequence) ++ text ++ reset

end Style

/-- A text as it is written to an output that can be styled or not. -/
def written (isStyled : Bool) (text : String) : String :=
  if isStyled then text else plain text

end StagedFormat.Terminal
