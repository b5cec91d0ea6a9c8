import StagedFormat.Toml.Digit

/-!
# The tokens of a TOML document

A document falls into punctuation, blanks, comments, line ends, quoted strings and atoms; an atom
is any run of other characters.  Quoted strings are read here, escapes included.  Each reader of a
quoted string passes over the text one character at a time and says what the string holds and
what follows it.
-/

set_option autoImplicit false

namespace StagedFormat.Toml

inductive Token
  | dot
  | equals
  | comma
  | openBracket
  | closeBracket
  | openBrace
  | closeBrace
  | blank (text : List Char)
  | comment
  | newline
  | atom (text : List Char)
  /-- A quoted string, with what it stands for. -/
  | quoted (multiline : Bool) (content : List Char)
  deriving DecidableEq, Repr

/-- A control character other than the tab; none may stand in strings and comments. -/
def isControl (c : Char) : Bool :=
  (c.toNat < 0x20 && c != '\t') || c.toNat == 0x7F

def escapeLetter? (c : Char) : Option Char :=
  if c = 'b' then some '\x08'
  else if c = 't' then some '\t'
  else if c = 'n' then some '\n'
  else if c = 'f' then some '\x0c'
  else if c = 'r' then some '\r'
  else if c = 'e' then some '\x1b'
  else if c = '"' then some '"'
  else if c = '\\' then some '\\'
  else none

/-- How many digits follow the letter of an escape for a code point. -/
def escapeDigits? (c : Char) : Option Nat :=
  if c = 'x' then some 2 else if c = 'u' then some 4 else if c = 'U' then some 8 else none

/-- The character with a code point, unless that is a surrogate or too large. -/
def characterOf? (n : Nat) : Option Char :=
  if n.isValidChar then some (Char.ofNat n) else none

/-- Where a reader of a quoted string is. -/
inductive Place
  | plain
  | escape
  /-- Inside an escape for a code point, some digits of which are missing. -/
  | code (missing value : Nat)
  /-- After a backslash and blanks, where the line has to end. -/
  | lineEnd
  /-- After a backslash and the end of its line, where blanks and line ends are passed over. -/
  | folding
  /-- After a carriage return, where a line feed has to follow. -/
  | carriage
  /-- The same among the line ends that are passed over. -/
  | foldedCarriage
  deriving DecidableEq, Repr

def prepend (front : List Char) (read : Option (List Char × List Char)) :
    Option (List Char × List Char) :=
  read.map fun parts => (front ++ parts.1, parts.2)

def readSingle (quote : Char) (escapes : Bool) : Place → List Char → Option (List Char × List Char)
  | _, [] => none
  | .escape, c :: rest =>
    match escapeLetter? c, escapeDigits? c with
    | some d, _ => prepend [d] (readSingle quote escapes .plain rest)
    | none, some digits => readSingle quote escapes (.code digits 0) rest
    | none, none => none
  | .code missing value, c :: rest =>
    match hexDigit? c with
    | none => none
    | some digit =>
      if missing ≤ 1 then
        match characterOf? (value * 16 + digit) with
        | none => none
        | some d => prepend [d] (readSingle quote escapes .plain rest)
      else readSingle quote escapes (.code (missing - 1) (value * 16 + digit)) rest
  | _, c :: rest =>
    if c = quote then some ([], rest)
    else if escapes ∧ c = '\\' then readSingle quote escapes .escape rest
    else if isControl c then none
    else prepend [c] (readSingle quote escapes .plain rest)

/-- Reads a string on several lines, from after its opening quotes and the line end there on.
`quotes` counts the quotes just read: three of them end the string, and up to two more belong to
it. -/
def readMultiple (quote : Char) (escapes : Bool) :
    Nat → Place → List Char → Option (List Char × List Char)
  | quotes, _, [] => if 3 ≤ quotes then some (List.replicate (quotes - 3) quote, []) else none
  | quotes, place, c :: rest =>
    if c = quote ∧ (place = .plain ∨ place = .folding) then
      if quotes = 4 then some ([quote, quote], rest)
      else readMultiple quote escapes (quotes + 1) .plain rest
    else if 3 ≤ quotes then some (List.replicate (quotes - 3) quote, c :: rest)
    else
      prepend (List.replicate quotes quote) <|
        match place with
        | .escape =>
          match escapeLetter? c, escapeDigits? c with
          | some d, _ => prepend [d] (readMultiple quote escapes 0 .plain rest)
          | none, some digits => readMultiple quote escapes 0 (.code digits 0) rest
          | none, none =>
            if c = ' ' ∨ c = '\t' then readMultiple quote escapes 0 .lineEnd rest
            else if c = '\n' then readMultiple quote escapes 0 .folding rest
            else if c = '\r' then readMultiple quote escapes 0 .foldedCarriage rest
            else none
        | .code missing value =>
          match hexDigit? c with
          | none => none
          | some digit =>
            if missing ≤ 1 then
              match characterOf? (value * 16 + digit) with
              | none => none
              | some d => prepend [d] (readMultiple quote escapes 0 .plain rest)
            else readMultiple quote escapes 0 (.code (missing - 1) (value * 16 + digit)) rest
        | .lineEnd =>
          if c = ' ' ∨ c = '\t' then readMultiple quote escapes 0 .lineEnd rest
          else if c = '\n' then readMultiple quote escapes 0 .folding rest
          else if c = '\r' then readMultiple quote escapes 0 .foldedCarriage rest
          else none
        | .carriage =>
          if c = '\n' then prepend ['\r', '\n'] (readMultiple quote escapes 0 .plain rest)
          else none
        | .foldedCarriage =>
          if c = '\n' then readMultiple quote escapes 0 .folding rest else none
        | .plain | .folding =>
          if place = .folding ∧ (c = ' ' ∨ c = '\t' ∨ c = '\n') then
            readMultiple quote escapes 0 .folding rest
          else if place = .folding ∧ c = '\r' then
            readMultiple quote escapes 0 .foldedCarriage rest
          else if escapes ∧ c = '\\' then readMultiple quote escapes 0 .escape rest
          else if c = '\r' then readMultiple quote escapes 0 .carriage rest
          else if c = '\n' then prepend [c] (readMultiple quote escapes 0 .plain rest)
          else if isControl c then none
          else prepend [c] (readMultiple quote escapes 0 .plain rest)

def dropLineEnd : List Char → List Char
  | '\n' :: rest => rest
  | '\r' :: '\n' :: rest => rest
  | text => text

def readQuoted (quote : Char) (text : List Char) : Option (Token × List Char) :=
  let escapes := quote == '"'
  match text with
  | first :: second :: rest =>
    if first = quote ∧ second = quote then
      (readMultiple quote escapes 0 .plain (dropLineEnd rest)).map fun parts =>
        (.quoted true parts.1, parts.2)
    else (readSingle quote escapes .plain text).map fun parts => (.quoted false parts.1, parts.2)
  | _ => (readSingle quote escapes .plain text).map fun parts => (.quoted false parts.1, parts.2)

def endsAtom (c : Char) : Bool :=
  ".=,[]\x7b\x7d \t#\r\n".toList.contains c

def isSpace (c : Char) : Bool :=
  c == ' ' || c == '\t'

def isInLine (c : Char) : Bool :=
  c != '\n' && c != '\r'

/-! ## What a reader leaves is no longer than what it was given -/

/-- What a reader leaves, if it reads anything, has at most so many characters. -/
def LeavesAtMost (count : Nat) (read : Option (List Char × List Char)) : Prop :=
  ∀ content rest, read = some (content, rest) → rest.length ≤ count

theorem leavesAtMost_none (count : Nat) : LeavesAtMost count none := by
  intro content rest found
  cases found

theorem leavesAtMost_some (content rest : List Char) :
    LeavesAtMost rest.length (some (content, rest)) := by
  intro content' rest' found
  cases found
  exact Nat.le_refl _

theorem LeavesAtMost.prepend {count : Nat} {read : Option (List Char × List Char)}
    (front : List Char) (bound : LeavesAtMost count read) :
    LeavesAtMost count (prepend front read) := by
  intro content rest found
  obtain ⟨parts, inner, same⟩ := Option.map_eq_some_iff.mp found
  cases same
  exact bound parts.1 parts.2 inner

theorem LeavesAtMost.mono {count more : Nat} {read : Option (List Char × List Char)}
    (bound : LeavesAtMost count read) (le : count ≤ more) : LeavesAtMost more read :=
  fun content rest found => Nat.le_trans (bound content rest found) le

theorem leavesAtMost_readSingle (quote : Char) (escapes : Bool) (place : Place)
    (text : List Char) : LeavesAtMost text.length (readSingle quote escapes place text) := by
  induction text generalizing place with
  | nil => cases place <;> exact leavesAtMost_none _
  | cons c rest ih =>
    have next (place : Place) :
        LeavesAtMost (c :: rest).length (readSingle quote escapes place rest) :=
      (ih place).mono (by simp)
    have stop : LeavesAtMost (c :: rest).length (some (([] : List Char), rest)) :=
      (leavesAtMost_some [] rest).mono (by simp)
    cases place <;> simp only [readSingle] <;> (repeat' split) <;>
      first
      | exact leavesAtMost_none _
      | exact stop
      | exact next _
      | exact (next _).prepend _

theorem leavesAtMost_readMultiple (quote : Char) (escapes : Bool) (quotes : Nat) (place : Place)
    (text : List Char) :
    LeavesAtMost text.length (readMultiple quote escapes quotes place text) := by
  induction text generalizing quotes place with
  | nil =>
    simp only [readMultiple]
    split
    · exact leavesAtMost_some _ []
    · exact leavesAtMost_none _
  | cons c rest ih =>
    have next (quotes : Nat) (place : Place) :
        LeavesAtMost (c :: rest).length (readMultiple quote escapes quotes place rest) :=
      (ih quotes place).mono (by simp)
    have stop (content : List Char) : LeavesAtMost (c :: rest).length (some (content, rest)) :=
      (leavesAtMost_some content rest).mono (by simp)
    cases place <;> simp only [readMultiple] <;> (repeat' split) <;>
      first
      | exact leavesAtMost_none _
      | exact stop _
      | exact leavesAtMost_some _ (c :: rest)
      | exact next _ _
      | exact (leavesAtMost_none _).prepend _
      | exact (next _ _).prepend _
      | exact ((next _ _).prepend _).prepend _

theorem length_dropLineEnd (text : List Char) : (dropLineEnd text).length ≤ text.length := by
  unfold dropLineEnd
  split
  · exact Nat.le_succ _
  · simp only [List.length_cons]
    omega
  · exact Nat.le_refl _

theorem length_of_readQuoted (quote : Char) (text rest : List Char) (token : Token)
    (found : readQuoted quote text = some (token, rest)) : rest.length ≤ text.length := by
  unfold readQuoted at found
  split at found
  · rename_i first second tail
    split at found
    all_goals
      obtain ⟨parts, read, same⟩ := Option.map_eq_some_iff.mp found
      cases same
    · have bound := leavesAtMost_readMultiple _ _ _ _ _ _ _ read
      have dropped := length_dropLineEnd tail
      simp only [List.length_cons]
      omega
    · exact leavesAtMost_readSingle _ _ _ _ _ _ read
  · obtain ⟨parts, read, same⟩ := Option.map_eq_some_iff.mp found
    cases same
    exact leavesAtMost_readSingle _ _ _ _ _ _ read

/-! ## The tokens of a text -/

def punctuation? (c : Char) : Option Token :=
  if c = '.' then some .dot
  else if c = '=' then some .equals
  else if c = ',' then some .comma
  else if c = '[' then some .openBracket
  else if c = ']' then some .closeBracket
  else if c = '\x7b' then some .openBrace
  else if c = '\x7d' then some .closeBrace
  else if c = '\n' then some .newline
  else none

theorem length_dropWhile (keep : Char → Bool) (text : List Char) :
    (text.dropWhile keep).length ≤ text.length :=
  (List.dropWhile_suffix keep).length_le

/-- The first token of a text and what follows it.  A carriage return has to belong to a line end,
and a comment may not hold control characters. -/
def nextToken? (c : Char) (rest : List Char) : Option (Token × List Char) :=
  match punctuation? c with
  | some token => some (token, rest)
  | none =>
    if c = '"' ∨ c = '\x27' then readQuoted c rest
    else if c = '\r' then
      match rest with
      | '\n' :: rest => some (.newline, rest)
      | _ => none
    else if c = '#' then
      if (rest.takeWhile isInLine).any isControl then none
      else some (.comment, rest.dropWhile isInLine)
    else if isSpace c then
      some (.blank (c :: rest.takeWhile isSpace), rest.dropWhile isSpace)
    else
      some (.atom (c :: rest.takeWhile fun d => !endsAtom d),
        rest.dropWhile fun d => !endsAtom d)

theorem length_of_nextToken? (c : Char) (text rest : List Char) (token : Token)
    (found : nextToken? c text = some (token, rest)) : rest.length ≤ text.length := by
  unfold nextToken? at found
  split at found
  · cases found
    exact Nat.le_refl _
  · split at found
    · exact length_of_readQuoted _ _ _ _ found
    · split at found
      · split at found <;> cases found
        exact Nat.le_succ _
      · split at found
        · split at found <;> cases found
          exact length_dropWhile _ _
        · split at found <;> cases found <;> exact length_dropWhile _ _

def tokens : List Char → Option (List Token)
  | [] => some []
  | c :: rest =>
    match found : nextToken? c rest with
    | none => none
    | some (token, remaining) =>
      have : remaining.length ≤ rest.length :=
        length_of_nextToken? c rest remaining token found
      (tokens remaining).map (token :: ·)
termination_by text => text.length
decreasing_by simp only [List.length_cons]; omega

end StagedFormat.Toml
