import StagedFormat.Glob.Basic

/-!
# Matching a glob

The tokens of a glob are applied one after another to a list of remainders: all that can be left
over of a text once the tokens so far have accepted something.  They are ends of the same text, the
longest first, and each knows its length, by which they can be told apart; so the work for a token
grows with the length of the text and not with the number of ways to divide it.  The glob matches
if nothing can be left over at the end.
-/

set_option autoImplicit false

namespace StagedFormat.Glob

structure Remainder where
  text : List Char
  length : Nat
  length_eq : text.length = length

namespace Remainder

def whole (text : List Char) : Remainder := ⟨text, text.length, rfl⟩

/-- The ends of a text, the whole text first and the empty one last. -/
def ends : (text : List Char) → (length : Nat) → text.length = length → List Remainder
  | [], length, same => [⟨[], length, same⟩]
  | c :: rest, length, same =>
    ⟨c :: rest, length, same⟩ :: ends rest (length - 1) (by simp [← same])

/-- The ends of a text that stand after a slash, are found in a list of remainders, or are empty.
`kept` tells whether the text itself is one of them for another reason. -/
def directoryEnds : (kept : Bool) → (others : List Remainder) → (text : List Char) →
    (length : Nat) → text.length = length → List Remainder
  | _, _, [], length, same => [⟨[], length, same⟩]
  | kept, others, c :: rest, length, same =>
    let isFound := others.head?.any fun other => other.length == length
    let later := directoryEnds (c == '/') (if isFound then others.tail else others) rest
      (length - 1) (by simp [← same])
    if kept || isFound then ⟨c :: rest, length, same⟩ :: later else later

/-- What is left over once a token for a single character has accepted the first one. -/
def dropOne? (token : Token) : Remainder → Option Remainder
  | ⟨[], _, _⟩ => none
  | ⟨c :: rest, length, same⟩ =>
    if token.acceptsChar c then some ⟨rest, length - 1, by simp [← same]⟩ else none

end Remainder

/-- What can be left over of remainders, the longest first, once a token has accepted something. -/
def Token.leftovers (token : Token) (remainders : List Remainder) : List Remainder :=
  match token, remainders with
  | _, [] => []
  | .anySequence, longest :: _ => Remainder.ends longest.text longest.length longest.length_eq
  | .anyDirectories, longest :: shorter =>
    Remainder.directoryEnds true shorter longest.text longest.length longest.length_eq
  | token, remainders => remainders.filterMap (Remainder.dropOne? token)

def tokensMatch (tokens : List Token) (text : List Char) : Bool :=
  (tokens.foldl (fun remainders token => token.leftovers remainders) [.whole text]).any
    fun remainder => remainder.text.isEmpty

def accepts (glob : Glob) (text : List Char) : Bool :=
  tokensMatch glob.tokens text

end StagedFormat.Glob
