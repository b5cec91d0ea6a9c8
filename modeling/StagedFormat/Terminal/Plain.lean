import StagedFormat.Text.Utf8

/-!
# Plain text out of terminal output

Besides what is to be seen, a text for a terminal holds control characters and sequences that
begin with an escape character.  `plain` takes both out.  Tabs, line ends, form feeds and carriage
returns stay; one that stands inside a sequence interrupts it, and what follows is shown up to the
next control character, where the sequence goes on.

The main lemma is `plain_eq_self`: a text without control characters is left as it is.
-/

set_option autoImplicit false

namespace StagedFormat.Terminal

/-- Where a reader is.  A string lasts until its terminator, and a command to the operating system
ends with a bell as well; in the other phases a sequence waits for its last character. -/
inductive Phase
  | text
  | escape
  | selection
  | control
  | device
  | deviceParameters
  | deviceSelection
  | string
  | command
  deriving DecidableEq, Repr

namespace Phase

def escapeChar : Char := '\x1b'

def terminator : UInt8 := 0x9C

def within (phase : Phase) (c : Char) : Phase :=
  let n := c.toNat
  match phase with
  | text => text
  | escape =>
    if n < 0x20 ∨ 0x7E < n then escape
    else if n < 0x30 then selection
    else if c = '[' then control
    else if c = ']' then command
    else if c = 'P' then device
    else if c = 'X' ∨ c = '^' ∨ c = '_' then string
    else text
  | selection => if 0x30 ≤ n ∧ n ≤ 0x7E then text else selection
  | control => if 0x40 ≤ n ∧ n ≤ 0x7E then text else control
  | device =>
    if n < 0x20 ∨ 0x7E < n then device
    else if n < 0x30 then deviceSelection
    else if n < 0x40 then deviceParameters
    else string
  | deviceParameters =>
    if n < 0x20 ∨ 0x7E < n then deviceParameters
    else if n < 0x30 then deviceSelection
    else if n < 0x3C then deviceParameters
    else string
  | deviceSelection => if 0x30 ≤ n ∧ n ≤ 0x7E then string else deviceSelection
  | string => if (Text.encodeChar c).contains terminator then text else string
  | command => if c = '\x07' then text else command

/-- Where the reader is after a character.  A cancel or a substitute character breaks a sequence
off. -/
def next (phase : Phase) (c : Char) : Phase :=
  if c = '\x18' ∨ c = '\x1a' then text
  else if c = escapeChar then escape
  else phase.within c

end Phase

def isLayout (c : Char) : Bool :=
  c == '\t' || c == '\n' || c == '\x0c' || c == '\r'

def isSeen (c : Char) : Bool :=
  isLayout c || (0x20 ≤ c.toNat && c != '\x7f')

def Phase.shows (phase : Phase) (c : Char) : Bool :=
  match phase with
  | text => isSeen c
  | escape | selection | control => isLayout c
  | _ => false

structure Reader where
  phase : Phase
  isShowing : Bool

namespace Reader

def shows (reader : Reader) (c : Char) : Bool :=
  (reader.isShowing && isSeen c) || reader.phase.shows c

/-- The reader after a character.  In what is shown, a character beyond ASCII ends all that was
interrupted. -/
def next (reader : Reader) (c : Char) : Reader where
  phase :=
    if reader.isShowing ∧ isSeen c then if c.toNat < 0x80 then reader.phase else .text
    else reader.phase.next c
  isShowing := reader.shows c

def shown (reader : Reader) : List Char → List Char
  | [] => []
  | c :: rest => (if reader.shows c then [c] else []) ++ (reader.next c).shown rest

end Reader

def plain (text : String) : String :=
  String.ofList (Reader.shown ⟨.text, false⟩ text.toList)

theorem shown_of_isSeen (isShowing : Bool) (text : List Char)
    (seen : ∀ c ∈ text, isSeen c = true) : Reader.shown ⟨.text, isShowing⟩ text = text := by
  induction text generalizing isShowing with
  | nil => rfl
  | cons c rest ih =>
    have here : isSeen c = true := seen c (by simp)
    have shows : Reader.shows ⟨.text, isShowing⟩ c = true := by
      simp [Reader.shows, Phase.shows, here]
    have broken : ¬ (c = '\x18' ∨ c = '\x1a') ∧ c ≠ Phase.escapeChar := by
      refine ⟨?_, ?_⟩ <;> (intro same; revert here)
      · rcases same with rfl | rfl <;> decide
      · subst same; decide
    have next : Reader.next ⟨.text, isShowing⟩ c = ⟨.text, true⟩ := by
      simp [Reader.next, shows, Phase.next, Phase.within, broken.1, broken.2]
    simp [Reader.shown, shows, next, ih true fun d member => seen d (by simp [member])]

theorem plain_eq_self (text : String) (seen : ∀ c ∈ text.toList, isSeen c = true) :
    plain text = text := by
  simp [plain, shown_of_isSeen false text.toList seen]

end StagedFormat.Terminal
