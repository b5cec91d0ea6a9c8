/-!
# File globs

A glob is a list of tokens.  Each token accepts some pieces of text, and a glob matches the texts
that fall into pieces which its tokens accept in order.  A slash is a character like any other,
except to `**`, which accepts nothing, whole leading directories, or all that is left.
-/

set_option autoImplicit false

namespace StagedFormat.Glob

inductive Specifier
  | single (c : Char)
  | range (first last : Char)
  deriving DecidableEq, Repr

def Specifier.contains : Specifier → Char → Bool
  | single d, c => c == d
  | range first last, c => first ≤ c && c ≤ last

inductive Token
  | char (c : Char)
  /-- One character, written `?`. -/
  | anyChar
  /-- Any characters, written `*`. -/
  | anySequence
  /-- Nothing, or characters up to and including a slash, or all that is left, written `**`. -/
  | anyDirectories
  /-- One character out of these, written `[...]`. -/
  | anyWithin (specifiers : List Specifier)
  /-- One character that is none of these, written `[!...]`. -/
  | anyExcept (specifiers : List Specifier)
  deriving DecidableEq, Repr

def Token.acceptsChar : Token → Char → Bool
  | char d, c => c == d
  | anyChar, _ => true
  | anyWithin specifiers, c => specifiers.any fun specifier => specifier.contains c
  | anyExcept specifiers, c => !specifiers.any fun specifier => specifier.contains c
  | anySequence, _ => false
  | anyDirectories, _ => false

/-- The pieces of text that a token accepts. -/
inductive Token.Accepts : Token → List Char → Prop
  | one (token : Token) (c : Char) (fits : token.acceptsChar c = true) : Accepts token [c]
  | sequence (piece : List Char) : Accepts .anySequence piece
  | noDirectory : Accepts .anyDirectories []
  | directories (piece : List Char) : Accepts .anyDirectories (piece ++ ['/'])

/-- The texts that tokens accept one after another. -/
inductive AcceptsAll : List Token → List Char → Prop
  | nil : AcceptsAll [] []
  | cons (token : Token) (tokens : List Token) (piece rest : List Char)
      (first : token.Accepts piece) (others : AcceptsAll tokens rest) :
      AcceptsAll (token :: tokens) (piece ++ rest)
  | toEnd (tokens : List Token) (rest : List Char) (others : AcceptsAll tokens []) :
      AcceptsAll (.anyDirectories :: tokens) rest

inductive Fault
  | tooManyStars
  /-- A `**` next to something that is no slash. -/
  | partialDirectories
  | unclosedRange
  deriving DecidableEq, Repr

def Fault.text : Fault → String
  | tooManyStars => "wildcards are either regular `*` or recursive `**`"
  | partialDirectories => "recursive wildcards must form a single path component"
  | unclosedRange => "invalid range pattern"

structure Error where
  position : Nat
  fault : Fault
  deriving DecidableEq, Repr

def Error.message (error : Error) : String :=
  "Pattern syntax error near position " ++ toString error.position ++ ": " ++ error.fault.text

end StagedFormat.Glob

namespace StagedFormat

structure Glob where
  source : String
  tokens : List Glob.Token
  deriving DecidableEq, Repr

end StagedFormat
