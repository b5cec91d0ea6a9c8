/-!
# Cutting a text at separators

`pieces` cuts a text at every separator and keeps empty pieces, so that there is always one piece
more than there are separators.  `lines` reads a text as lines: each ends with a line feed, or a
carriage return and a line feed, and the last one may lack its end.
-/

set_option autoImplicit false

namespace StagedFormat.Text

variable {α : Type}

/-- The pieces of a sequence between its separators. -/
def pieces (isSeparator : α → Bool) : List α → List (List α)
  | [] => [[]]
  | c :: rest =>
    if isSeparator c then [] :: pieces isSeparator rest
    else
      match pieces isSeparator rest with
      | [] => [[c]]
      | piece :: others => (c :: piece) :: others

/-- A line without the carriage return it ends with, if there is one. -/
def withoutReturn (line : List Char) : List Char :=
  if line.getLast? = some '\r' then line.dropLast else line

/-- The lines among the pieces between line feeds: all but the last piece were ended by a line
feed; the last one is a line only if there is something in it, and keeps its carriage return. -/
def linesOfPieces : List (List Char) → List (List Char)
  | [] => []
  | [last] => if last.isEmpty then [] else [last]
  | piece :: next :: others => withoutReturn piece :: linesOfPieces (next :: others)

def lines (text : List Char) : List (List Char) :=
  linesOfPieces (pieces (· == '\n') text)

end StagedFormat.Text
