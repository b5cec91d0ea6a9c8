import Mathlib.Computability.Language

/-!
# Regular expressions

The syntax of regular expressions as text, and the language of each.  The reader knows characters,
escaped characters, the dot, bracket expressions, groups, alternatives and the three signs of
repetition; it refuses whatever else a regular expression can hold (anchors, counted or lazy
repetition, classes with names, operations on sets), so that what it accepts is well formed and
means what it says.
-/

set_option autoImplicit false

namespace StagedFormat

inductive Regex
  | empty
  | char (c : Char)
  | anyChar
  /-- A character in one of the ranges, or in none of them. -/
  | set (negated : Bool) (ranges : List (Char × Char))
  | sequence (first second : Regex)
  | either (first second : Regex)
  | star (inner : Regex)
  | plus (inner : Regex)
  | optional (inner : Regex)
  | group (inner : Regex)

namespace Regex

def inRanges (ranges : List (Char × Char)) (c : Char) : Bool :=
  ranges.any fun range => range.1 ≤ c && c ≤ range.2

def oneCharacter (accepts : Char → Prop) : Language Char :=
  {text : List Char | ∃ c, accepts c ∧ text = [c]}

/-- The texts that a regular expression matches as a whole. -/
def language : Regex → Language Char
  | empty => 1
  | char c => oneCharacter fun d => d = c
  | anyChar => oneCharacter fun c => c ≠ '\n'
  | set negated ranges => oneCharacter fun c => inRanges ranges c = !negated
  | sequence first second => first.language * second.language
  | either first second => first.language + second.language
  | star inner => KStar.kstar inner.language
  | plus inner => inner.language * KStar.kstar inner.language
  | optional inner => 1 + inner.language
  | group inner => inner.language

/-! ## Tokens -/

inductive Repetition
  | star
  | plus
  | optional

def Repetition.apply : Repetition → Regex → Regex
  | star => .star
  | plus => .plus
  | optional => .optional

inductive Token
  | item (regex : Regex)
  | repeated (repetition : Repetition)
  | bar
  | openGroup
  | closeGroup

/-- What has been read of a token whose end is not reached. -/
inductive Mode
  | outside
  | escaped
  | opening
  /-- In a bracket expression, where a dash may make the last character the first of a range. -/
  | inside (negated : Bool) (ranges : List (Char × Char)) (last : Option Char)
  | insideEscaped (negated : Bool) (ranges : List (Char × Char))
  | ranging (negated : Bool) (ranges : List (Char × Char)) (first : Char)

/-- A character that a backslash makes stand for itself: printable ASCII without letters and
digits, and without the angle brackets. -/
def isEscapable (c : Char) : Bool :=
  '!' ≤ c && c ≤ '~' && !c.isAlphanum && c != '<' && c != '>'

def specialOutside : List Char := "\\.+*?()|[]\x7b\x7d^$".toList

def specialInside : List Char := "\\[]^-&~".toList

def withLast (ranges : List (Char × Char)) (last : Option Char) : List (Char × Char) :=
  match last with
  | some c => (c, c) :: ranges
  | none => ranges

def readOutside (c : Char) : Option (List Token × Mode) :=
  if c = '\\' then some ([], .escaped)
  else if c = '[' then some ([], .opening)
  else if c = '.' then some ([.item .anyChar], .outside)
  else if c = '*' then some ([.repeated .star], .outside)
  else if c = '+' then some ([.repeated .plus], .outside)
  else if c = '?' then some ([.repeated .optional], .outside)
  else if c = '|' then some ([.bar], .outside)
  else if c = '(' then some ([.openGroup], .outside)
  else if c = ')' then some ([.closeGroup], .outside)
  else if specialOutside.contains c then none
  else some ([.item (.char c)], .outside)

def readInside (negated : Bool) (ranges : List (Char × Char)) (last : Option Char) (c : Char) :
    Option (List Token × Mode) :=
  let all := withLast ranges last
  if c = ']' then
    if all = [] then none else some ([.item (.set negated all)], .outside)
  else if c = '\\' then some ([], .insideEscaped negated all)
  else if c = '-' then last.map fun first => ([], .ranging negated ranges first)
  else if specialInside.contains c then none
  else some ([], .inside negated all (some c))

/-- Reads a character: the tokens that it ends, and what has been read of the next one. -/
def Mode.read (mode : Mode) (c : Char) : Option (List Token × Mode) :=
  match mode with
  | outside => readOutside c
  | escaped => if isEscapable c then some ([.item (.char c)], outside) else none
  | opening => if c = '^' then some ([], inside true [] none) else readInside false [] none c
  | inside negated ranges last => readInside negated ranges last c
  | insideEscaped negated ranges =>
    if isEscapable c then some ([], inside negated ranges (some c)) else none
  | ranging negated ranges first =>
    if specialInside.contains c || c < first then none
    else some ([], inside negated ((first, c) :: ranges) none)

def tokensFrom : Mode → List Char → Option (List Token)
  | .outside, [] => some []
  | _, [] => none
  | mode, c :: rest =>
    match mode.read c with
    | none => none
    | some (found, next) => (tokensFrom next rest).map (found ++ ·)

/-! ## Reading -/

/-- The part of a group that has been read: the alternatives before the last bar, and the items
behind it, the last one first. -/
structure Frame where
  alternatives : Option Regex := none
  items : List Regex := []

def Frame.close (frame : Frame) : Regex :=
  let last := frame.items.foldl (fun rest item => .sequence item rest) .empty
  match frame.alternatives with
  | none => last
  | some alternatives => .either alternatives last

/-- The group that is read, and the groups around it, the innermost first. -/
structure Groups where
  current : Frame := {}
  outer : List Frame := []

def Frame.push (frame : Frame) (item : Regex) : Frame :=
  { frame with items := item :: frame.items }

def isRepeated : Regex → Bool
  | star _ | plus _ | optional _ => true
  | _ => false

/-- Adds a token.  A sign of repetition has to follow something that is not repeated yet. -/
def Groups.add (groups : Groups) : Token → Option Groups
  | .item item => some { groups with current := groups.current.push item }
  | .repeated repetition =>
    match groups.current.items with
    | [] => none
    | item :: items =>
      if item.isRepeated then none
      else some { groups with current.items := repetition.apply item :: items }
  | .bar => some { groups with current := { alternatives := some groups.current.close } }
  | .openGroup => some { current := {}, outer := groups.current :: groups.outer }
  | .closeGroup =>
    match groups.outer with
    | [] => none
    | frame :: outer => some { current := frame.push (.group groups.current.close), outer }

def ofTokens? (tokens : List Token) : Option Regex :=
  match tokens.foldlM Groups.add {} with
  | some ⟨frame, []⟩ => some frame.close
  | _ => none

/-- The regular expression that a text is, if it is one that the reader knows. -/
def parse? (text : List Char) : Option Regex :=
  (tokensFrom .outside text).bind ofTokens?

def Accepts (pattern text : String) : Prop :=
  ∃ regex, parse? pattern.toList = some regex ∧ text.toList ∈ regex.language

/-! ## Items one after another -/

theorem tokensFrom_cons {mode : Mode} {c : Char} (next : Mode) (found : List Token)
    (rest : List Char) (read : mode.read c = some (found, next)) :
    tokensFrom mode (c :: rest) = (tokensFrom next rest).map (found ++ ·) := by
  cases mode <;> simp [tokensFrom, read]

theorem foldlM_add_items (items : List Regex) (groups : Groups) :
    (items.map Token.item).foldlM Groups.add groups =
      some { groups with
        current := { groups.current with items := items.reverse ++ groups.current.items } } := by
  induction items generalizing groups with
  | nil => rfl
  | cons item rest ih =>
    rw [List.map_cons, List.foldlM_cons]
    simp only [Groups.add, Option.bind_eq_bind, Option.bind_some, ih]
    simp [Frame.push]

theorem language_close (items : List Regex) :
    (Frame.close { items := items.reverse }).language = (items.map language).prod := by
  simp only [Frame.close, List.foldl_reverse]
  induction items with
  | nil => rfl
  | cons item rest ih =>
    rw [List.foldr_cons, List.map_cons, List.prod_cons, ← ih]
    rfl

theorem mem_oneCharacter (accepts : Char → Prop) (text : List Char) :
    text ∈ oneCharacter accepts ↔ ∃ c, accepts c ∧ text = [c] := Iff.rfl

theorem mem_language_chars (word text : List Char) :
    text ∈ ((word.map Regex.char).map language).prod ↔ text = word := by
  induction word generalizing text with
  | nil => exact Language.mem_one text
  | cons c rest ih =>
    simp only [List.map_cons, List.prod_cons]
    rw [Language.mem_mul]
    constructor
    · rintro ⟨first, ⟨d, same, rfl⟩, others, othersIn, rfl⟩
      rw [same, (ih others).mp othersIn]
      rfl
    · rintro rfl
      exact ⟨[c], ⟨c, rfl, rfl⟩, rest, (ih rest).mpr rfl, rfl⟩

theorem mem_language_star_anyChar (text : List Char) :
    text ∈ (star anyChar).language ↔ '\n' ∉ text := by
  simp only [language]
  rw [Language.mem_kstar]
  constructor
  · rintro ⟨words, rfl, each⟩ feed
    obtain ⟨word, member, inside⟩ := List.mem_flatten.mp feed
    obtain ⟨c, noFeed, rfl⟩ := each word member
    exact noFeed (List.mem_singleton.mp inside).symm
  · intro noFeed
    have spelled : text = (text.map fun c => [c]).flatten := by
      rw [← List.flatMap_def, List.flatMap_singleton']
    refine ⟨text.map fun c => [c], spelled, ?_⟩
    intro word member
    obtain ⟨c, here, rfl⟩ := List.mem_map.mp member
    exact ⟨c, fun feed => noFeed (feed ▸ here), rfl⟩

end Regex

end StagedFormat
