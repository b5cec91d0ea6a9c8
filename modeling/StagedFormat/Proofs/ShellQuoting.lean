import StagedFormat.Proofs.SparedHooks

/-!
# The glob in the script

A hook is a shell script, and the glob is pasted into it between single quotes.  `Shell.scan` reads
a script by the rules for quotes, backslashes and comments; here-documents and substitutions are
not among them.  In the section for a glob without a single quote it finds the glob as one literal,
in its place, and around it the same pieces for all globs.

The section of a hook can stand behind other text.  There it is read in this way exactly if that
text ends outside of quotes, and nobody looks whether it does: behind an open quote, the glob is a
part of the script.
-/

set_option autoImplicit false

namespace StagedFormat

/-! ## The rules of quoting -/

namespace Shell

/-- A piece of a script: a character outside of quotes or behind a backslash, a text between single
or double quotes, or a comment. -/
inductive Piece
  | bare (c : Char)
  | escaped (c : Char)
  | literal (text : List Char)
  | quoted (text : List Char)
  | comment (text : List Char)
  deriving DecidableEq, Repr

/-- Where in a script the next character stands.  A comment can begin only where a word can, and
texts that are not complete have their last character first. -/
inductive Place
  | between
  | word
  | escape
  | literal (reversed : List Char)
  | quoted (reversed : List Char)
  | quotedEscape (reversed : List Char)
  | comment (reversed : List Char)
  deriving DecidableEq, Repr

def endsWord (c : Char) : Bool :=
  [' ', '\t', '\n', ';', '&', '|', '(', ')', '<', '>'].contains c

def readOutside (c : Char) : List Piece × Place :=
  if c = '\x27' then ([], .literal [])
  else if c = '"' then ([], .quoted [])
  else if c = '\\' then ([], .escape)
  else ([.bare c], if endsWord c then .between else .word)

def Place.read : Place → Char → List Piece × Place
  | between, c => if c = '#' then ([], .comment []) else readOutside c
  | word, c => readOutside c
  | escape, c => ([.escaped c], .word)
  | literal reversed, c =>
    if c = '\x27' then ([.literal reversed.reverse], .word) else ([], .literal (c :: reversed))
  | quoted reversed, c =>
    if c = '"' then ([.quoted reversed.reverse], .word)
    else if c = '\\' then ([], .quotedEscape (c :: reversed))
    else ([], .quoted (c :: reversed))
  | quotedEscape reversed, c => ([], .quoted (c :: reversed))
  | comment reversed, c =>
    if c = '\n' then ([.comment reversed.reverse, .bare c], .between)
    else ([], .comment (c :: reversed))

def scan (place : Place) : List Char → List Piece × Place
  | [] => ([], place)
  | c :: rest =>
    let (found, next) := place.read c
    let (later, final) := scan next rest
    (found ++ later, final)

theorem scan_append (place : Place) (front back : List Char) :
    scan place (front ++ back) =
      ((scan place front).1 ++ (scan (scan place front).2 back).1,
        (scan (scan place front).2 back).2) := by
  induction front generalizing place with
  | nil => rfl
  | cons c rest ih => simp only [List.cons_append, scan, ih, List.append_assoc]

theorem scan_literal (text reversed : List Char) (plain : '\x27' ∉ text) :
    scan (.literal reversed) text = ([], .literal (text.reverse ++ reversed)) := by
  induction text generalizing reversed with
  | nil => rfl
  | cons c rest ih =>
    obtain ⟨first, others⟩ : '\x27' ≠ c ∧ '\x27' ∉ rest := by simpa using plain
    have step : (Place.literal reversed).read c = ([], .literal (c :: reversed)) := by
      rw [Place.read, if_neg (Ne.symm first)]
    simp only [scan, step, ih _ others, List.reverse_cons, List.append_assoc, List.singleton_append,
      List.nil_append]

/-- What a place says of the next piece, if it is in the middle of one. -/
def Place.Awaits (place : Place) (piece : Piece) : Prop :=
  match place with
  | between | word => True
  | escape => ∃ c, piece = .escaped c
  | literal _ => ∃ text, piece = .literal text
  | quoted _ | quotedEscape _ => ∃ text, piece = .quoted text
  | comment reversed => ∃ text, piece = .comment (reversed.reverse ++ text)

theorem awaits_of_mem_head? (place : Place) (text : List Char) :
    ∀ piece ∈ (scan place text).1.head?, place.Awaits piece := by
  induction text generalizing place with
  | nil => simp [scan]
  | cons c rest ih =>
    intro piece first
    cases place with
    | between => trivial
    | word => trivial
    | escape =>
      obtain rfl : .escaped c = piece := by simpa [scan, Place.read] using first
      exact ⟨c, rfl⟩
    | literal reversed =>
      by_cases closes : c = '\x27'
      · obtain rfl : .literal reversed.reverse = piece := by
          simpa [scan, Place.read, closes] using first
        exact ⟨_, rfl⟩
      · exact ih (.literal (c :: reversed)) piece (by simpa [scan, Place.read, closes] using first)
    | quoted reversed =>
      by_cases closes : c = '"'
      · obtain rfl : .quoted reversed.reverse = piece := by
          simpa [scan, Place.read, closes] using first
        exact ⟨_, rfl⟩
      · by_cases escapes : c = '\\'
        · exact ih (.quotedEscape (c :: reversed)) piece
            (by simpa [scan, Place.read, closes, escapes] using first)
        · exact ih (.quoted (c :: reversed)) piece
            (by simpa [scan, Place.read, closes, escapes] using first)
    | quotedEscape reversed =>
      exact ih (.quoted (c :: reversed)) piece (by simpa [scan, Place.read] using first)
    | comment reversed =>
      by_cases ends : c = '\n'
      · obtain rfl : .comment reversed.reverse = piece := by
          simpa [scan, Place.read, ends] using first
        exact ⟨[], by simp⟩
      · obtain ⟨text, rfl⟩ := ih (.comment (c :: reversed)) piece
          (by simpa [scan, Place.read, ends] using first)
        exact ⟨c :: text, by simp⟩

def Piece.literal? : Piece → Option (List Char)
  | literal text => some text
  | _ => none

def literals (pieces : List Piece) : List (List Char) :=
  pieces.filterMap Piece.literal?

def bare (text : String) : List Piece :=
  text.toList.map .bare

theorem literals_append (front back : List Piece) :
    literals (front ++ back) = literals front ++ literals back :=
  List.filterMap_append

theorem literals_cons (piece : Piece) (rest : List Piece) :
    literals (piece :: rest) = piece.literal?.toList ++ literals rest := by
  cases piece <;> rfl

theorem literals_bare (text : String) : literals (bare text) = [] := by
  simp [literals, bare, Piece.literal?]

def Piece.isBlank : Piece → Bool
  | bare c => c == ' ' || c == '\t'
  | _ => false

def words (pieces : List Piece) : List (List Piece) :=
  (pieces.splitOnP Piece.isBlank).filter (· ≠ [])

end Shell

namespace Hook

open Shell (Piece scan bare literals words)

/-! ## The pieces of a section -/

def listing : List Piece :=
  bare "git -c core.quotePath=false diff --cached --name-only --diff-filter=ACMR --"

def opening : List Piece :=
  .comment " >>> spotless-staged >>>".toList :: bare "\n(\n    set -f\n    "

def loopHead : List Piece :=
  bare "    set --\n    for file in "

def loopBody : List Piece :=
  bare "; do\n        set -- " ++ [.quoted "$@".toList] ++ bare " " ++ [.quoted "$file".toList]
    ++ bare "\n    done\n    if [ $# -gt 0 ]; then\n        exec spotless-staged -- "
    ++ [.quoted "$@".toList] ++ bare "\n    fi\n) || exit $?\n"
    ++ [.comment " <<< spotless-staged <<<".toList] ++ bare "\n"

def piecesBefore : List Piece :=
  opening ++ bare "IFS=" ++ [.literal ['\n']] ++ bare "\n" ++ loopHead ++ bare "$(" ++ listing
    ++ bare " "

def piecesAfter : List Piece :=
  bare ")" ++ loopBody

def piecesWith (text : List Char) : List Piece :=
  piecesBefore ++ .literal text :: piecesAfter

theorem scan_beforeGlob : scan .between beforeGlob = (piecesBefore, .literal []) := by
  rw [beforeGlob_eq]
  decide +kernel

theorem scan_afterGlob (reversed : List Char) :
    scan (.literal reversed) afterGlob = (.literal reversed.reverse :: piecesAfter, .between) := by
  have shape : afterGlob = '\x27' :: afterGlob.tail := by
    rw [afterGlob_eq]
    rfl
  have later : scan .word afterGlob.tail = (piecesAfter, .between) := by
    rw [afterGlob_eq]
    decide +kernel
  have closes : (Shell.Place.literal reversed).read '\x27' =
      ([.literal reversed.reverse], .word) := rfl
  rw [shape]
  simp only [scan, closes, later, List.singleton_append]

theorem scan_sectionFor (glob : List Char) (plain : '\x27' ∉ glob) :
    scan .between (sectionFor glob) = (piecesWith glob, .between) := by
  rw [sectionFor, List.append_assoc, Shell.scan_append, scan_beforeGlob, Shell.scan_append,
    Shell.scan_literal glob [] plain, scan_afterGlob]
  simp [piecesWith]

/-- A single quote in the glob ends the literal, so that it is another one. -/
theorem scan_sectionFor_of_quote (glob : List Char) (quote : '\x27' ∈ glob) :
    (scan .between (sectionFor glob)).1 ≠ piecesWith glob := by
  obtain ⟨front, back, rfl, plain⟩ := List.eq_append_cons_of_mem quote
  have cut : sectionFor (front ++ '\x27' :: back) =
      beforeGlob ++ (front ++ '\x27' :: (back ++ afterGlob)) := by
    simp [sectionFor]
  intro same
  -- The literal that is read ends at the first quote, in front of the rest of the glob.
  rw [cut, Shell.scan_append, scan_beforeGlob, Shell.scan_append,
    Shell.scan_literal front [] plain] at same
  have closes : (Shell.Place.literal front.reverse).read '\x27' = ([.literal front], .word) := by
    simp [Shell.Place.read]
  simp only [scan, closes, piecesWith, List.nil_append, List.append_nil, List.append_cancel_left_eq,
    List.cons_append, List.cons.injEq, Piece.literal.injEq] at same
  exact absurd same.1 (by simp)

theorem literals_piecesWith (text : List Char) : literals (piecesWith text) = [['\n'], text] := by
  simp [piecesWith, piecesBefore, piecesAfter, opening, loopHead, loopBody, listing,
    Shell.literals_append, Shell.literals_cons, Shell.literals_bare, Piece.literal?]

def listingWords : List String :=
  ["git", "-c", "core.quotePath=false", "diff", "--cached", "--name-only", "--diff-filter=ACMR",
    "--"]

theorem words_listing (text : List Char) :
    words (listing ++ bare " " ++ [.literal text]) =
      listingWords.map bare ++ [[.literal text]] := by
  have front : (listing.splitOnP Piece.isBlank).filter (· ≠ []) = listingWords.map bare := by
    decide +kernel
  have back : [Piece.literal text].splitOnP Piece.isBlank = [[.literal text]] := rfl
  have blank : bare " " ++ [.literal text] = .bare ' ' :: [.literal text] := rfl
  have separates : Piece.isBlank (.bare ' ') = true := rfl
  rw [words, List.append_assoc, blank, List.splitOnP_append_cons _ _ separates,
    List.filter_append, front, back]
  simp

/-- The only literals of a script are a line feed that is assigned, and a text that is the last word
of the command that lists the files. -/
structure Confines (pieces : List Piece) (text : List Char) : Prop where
  literals : literals pieces = [['\n'], text]
  assigned : ∃ front back,
    pieces = front ++ bare "IFS=" ++ [.literal ['\n']] ++ bare "\n" ++ back
  lastWord : ∃ front command back,
    pieces = front ++ bare "$(" ++ command ++ bare ")" ++ back ∧
      words command = listingWords.map bare ++ [[.literal text]]

theorem confines_piecesWith (text : List Char) : Confines (piecesWith text) text where
  literals := literals_piecesWith text
  assigned := by
    refine ⟨opening,
      loopHead ++ bare "$(" ++ listing ++ bare " " ++ .literal text :: piecesAfter, ?_⟩
    simp [piecesWith, piecesBefore]
  lastWord := by
    refine ⟨opening ++ bare "IFS=" ++ [.literal ['\n']] ++ bare "\n" ++ loopHead,
      listing ++ bare " " ++ [.literal text], loopBody, ?_, words_listing text⟩
    simp [piecesWith, piecesBefore, piecesAfter]

/-! ## Sections behind other text -/

/-- What stands in front of the section where a hook is written. -/
def textInFront : Option (List Char) → List Char
  | none => header
  | some text =>
    if mentions beginMarker text then Text.trimEnd (removeSection text) ++ ['\n', '\n']
    else if mentions toolName text then header
    else Text.trimEnd text ++ ['\n', '\n']

theorem eq_of_update {hook : Option (List Char)} {glob content : List Char} {force : Bool}
    {answer : Installation} (updated : update hook glob force = (answer, some content)) :
    content = textInFront hook ++ sectionFor glob := by
  cases hook with
  | none =>
    cases updated
    rfl
  | some text =>
    by_cases marked : mentions beginMarker text = true
    · cases force
      · simp [update, marked] at updated
      · obtain ⟨rfl, rfl⟩ : .replaced = answer ∧ _ = content := by
          simpa [update, marked] using updated
        simp [textInFront, marked, withSection]
    by_cases named : mentions toolName text = true
    · cases force
      · simp [update, marked, named] at updated
      · obtain ⟨rfl, rfl⟩ : .replaced = answer ∧ _ = content := by
          simpa [update, marked, named] using updated
        simp [textInFront, marked, named, newHook]
    · obtain ⟨rfl, rfl⟩ : .appended = answer ∧ _ = content := by
        simpa [update, marked, named] using updated
      simp [textInFront, marked, named, withSection]

/-- In front of the section of a new hook, or of one that replaces a hook that was written by hand,
all quotes are closed. -/
theorem scan_textInFront {hook : Option (List Char)}
    (new : ∀ text ∈ hook, toolName <:+: text ∧ ¬ beginMarker <:+: text) :
    (scan .between (textInFront hook)).2 = .between := by
  have closed : (scan .between header).2 = .between := by decide +kernel
  cases hook with
  | none => exact closed
  | some text =>
    obtain ⟨named, unmarked⟩ := new text rfl
    rw [← mentions_iff] at named unmarked
    simpa only [textInFront, if_neg unmarked, if_pos named] using closed

theorem eq_between_of_scan {place : Shell.Place} {glob : List Char}
    (same : (scan place (sectionFor glob)).1 = piecesWith glob) : place = .between := by
  obtain ⟨rest, begins⟩ : ∃ rest, sectionFor glob = '#' :: rest :=
    ⟨_, by rw [sectionFor, beforeGlob_eq]; rfl⟩
  have marker : (piecesWith glob).head? = some (.comment " >>> spotless-staged >>>".toList) := rfl
  have first : .comment " >>> spotless-staged >>>".toList ∈ (scan place ('#' :: rest)).1.head? := by
    rw [← begins, same, marker]
    rfl
  cases place with
  | between => rfl
  | word => simp [scan, Shell.Place.read, Shell.readOutside] at first
  | comment reversed =>
    obtain ⟨text, whole⟩ := Shell.awaits_of_mem_head? (.comment ('#' :: reversed)) rest _
      (by simpa [scan, Shell.Place.read] using first)
    have sharp : '#' ∈ ('#' :: reversed).reverse ++ text := by simp
    rw [← Piece.comment.inj whole] at sharp
    exact absurd sharp (by decide)
  | _ =>
    obtain ⟨text, other⟩ := Shell.awaits_of_mem_head? _ _ _ first
    cases other

theorem scan_append_sectionFor_iff (own glob : List Char) (plain : '\x27' ∉ glob) :
    (scan .between own).2 = .between ↔
      scan .between (own ++ sectionFor glob) =
        ((scan .between own).1 ++ piecesWith glob, .between) := by
  rw [Shell.scan_append]
  constructor
  · intro closed
    rw [closed, scan_sectionFor glob plain]
  · intro whole
    exact eq_between_of_scan (List.append_cancel_left (Prod.mk.inj whole).1)

/-- Behind an open single quote, the glob is read as a part of the script. -/
theorem scan_sectionFor_of_open (reversed glob : List Char) :
    (scan .word glob).1 <:+: (scan (.literal reversed) (sectionFor glob)).1 := by
  obtain ⟨front, back, cut, plain, reopened⟩ : ∃ front back, beforeGlob = front ++ '\x27' :: back ∧
      '\x27' ∉ front ∧ (scan .word back).2 = .word := by
    refine ⟨"# >>> spotless-staged >>>\n(\n    set -f\n    IFS=".toList, _,
      by rw [beforeGlob_eq]; rfl, by decide, by decide +kernel⟩
  have closes : (Shell.Place.literal (front.reverse ++ reversed)).read '\x27' =
      ([.literal (front.reverse ++ reversed).reverse], .word) := rfl
  have outside : (scan (.literal reversed) beforeGlob).2 = .word := by
    rw [cut, Shell.scan_append, Shell.scan_literal front reversed plain]
    simp only [scan, closes, reopened]
  rw [sectionFor, Shell.scan_append, Shell.scan_append, outside]
  exact ⟨_, _, rfl⟩

/-! ## Sections that are installed -/

def HookReads (tree : FileTree) (workdir : Location) (directory : Path)
    (hook : Option (List Char)) : Prop :=
  ∃ made, (Change.makeDirectories workdir directory).run tree = .ok () made ∧
    existing made workdir (file directory) = .ok hook

theorem exists_hook_of_install {tree final : FileTree} {workdir : Location} {directory : Path}
    {glob : String} {force : Bool} {answer : Installation}
    (installed : (install workdir directory glob force).run tree = .ok answer final)
    (other : answer ≠ .alreadyInstalled) :
    acceptsGlob glob.toList = true ∧ ∃ hook, HookReads tree workdir directory hook ∧
      ∃ place, HookAt tree workdir directory place ∧ final.look place =
        some (.file (Text.encode (textInFront hook ++ sectionFor glob.toList)) 0o755) := by
  have comes := comesTo_install tree workdir directory glob force
  rw [installed] at comes
  cases comes with
  | spared => exact absurd rfl other
  | written accepted answer made hook place content making gains reading reaches updated =>
    obtain rfl := eq_of_update updated
    exact ⟨accepted, hook, ⟨made, making, reading⟩, place, ⟨made, making, reaches.found⟩,
      FileTree.look_put_self made place _ (FileTree.ne_top_of_look_ne reaches.notDirectory)⟩

/-- By the rules of quoting, a section ends outside of quotes, has the glob as one literal, and is
the same for all globs around it; a glob with a single quote is not read like that, but refused, and
the tree stays as it is.  The section of an installed script is read in this way exactly if the text
in front of it ends outside of quotes.  That is so in a new script, and in one that replaces a hook
that was written by hand.  Behind an open single quote, what the glob says is read as script. -/
theorem glob_confined_iff (tree : FileTree) (workdir : Location) (directory : Path) (glob : String)
    (force : Bool) :
    (acceptsGlob glob.toList = true →
      scan .between (sectionFor glob.toList) = (piecesWith glob.toList, .between) ∧
        Confines (piecesWith glob.toList) glob.toList) ∧
    ('\x27' ∈ glob.toList →
      (scan .between (sectionFor glob.toList)).1 ≠ piecesWith glob.toList ∧
        (install workdir directory glob force).run tree = .error (.unsupportedGlob glob) tree) ∧
    ∀ answer final, (install workdir directory glob force).run tree = .ok answer final →
      answer ≠ .alreadyInstalled →
        ∃ hook, HookReads tree workdir directory hook ∧
          (∃ place, HookAt tree workdir directory place ∧ final.look place =
            some (.file (Text.encode (textInFront hook ++ sectionFor glob.toList)) 0o755)) ∧
          ((∀ text ∈ hook, toolName <:+: text ∧ ¬ beginMarker <:+: text) →
            (scan .between (textInFront hook)).2 = .between) ∧
          ((scan .between (textInFront hook)).2 = .between ↔
            scan .between (textInFront hook ++ sectionFor glob.toList) =
              ((scan .between (textInFront hook)).1 ++ piecesWith glob.toList, .between)) ∧
          ∀ reversed, (scan .between (textInFront hook)).2 = .literal reversed →
            (scan .word glob.toList).1 <:+:
              (scan .between (textInFront hook ++ sectionFor glob.toList)).1 := by
  refine ⟨fun accepted => ?_, fun quote => ⟨scan_sectionFor_of_quote _ quote, ?_⟩, ?_⟩
  · have plain := ((acceptsGlob_iff _).mp accepted).2
    exact ⟨scan_sectionFor _ plain, confines_piecesWith _⟩
  · apply run_install_of_rejected
    rw [← Bool.not_eq_true, acceptsGlob_iff]
    exact fun accepted => accepted.2 quote
  · intro answer final installed other
    obtain ⟨accepted, hook, reads, stored⟩ := exists_hook_of_install installed other
    have plain := ((acceptsGlob_iff _).mp accepted).2
    refine ⟨hook, reads, stored, scan_textInFront, scan_append_sectionFor_iff _ _ plain, ?_⟩
    intro reversed opened
    rw [Shell.scan_append, opened]
    exact (scan_sectionFor_of_open reversed glob.toList).trans (List.suffix_append _ _).isInfix

theorem install_appended_hookTree (text : List Char) (glob : String)
    (accepted : acceptsGlob glob.toList = true) (foreign : ¬ toolName <:+: text) :
    (install .top (.ofText "hooks") glob false).run (hookTree (Text.encode text) plainMode) =
      .ok .appended (hookTree (Text.encode (withSection text glob.toList)) executableMode) := by
  have reaches := reaches_hookTree (Text.encode text) plainMode
  have unmarked : ¬ beginMarker <:+: text := fun marked =>
    foreign (toolName_infix_beginMarker.trans marked)
  have updated : update (some text) glob.toList false =
      (.appended, some (withSection text glob.toList)) := by
    simp [update, mentions_iff, foreign, unmarked]
  have installed := install_of_update_some accepted (Change.makeDirectories_of_isMade reaches.made)
    reaches (existing_of_look reaches (look_hookTree _ _) (by simp)) updated
  rwa [hookTree, FileTree.put_put] at installed

/-- Line feeds, quotes, a backslash, a command and a parenthesis stay in the literal, also in the
hook of another program. -/
theorem glob_confined_iff_hostile :
    let glob := "*.kt\n\"$(rm a)`\\# )"
    ∃ final front,
      scan .between (sectionFor glob.toList) = (piecesWith glob.toList, .between) ∧
      (install .top (.ofText "hooks") glob false).run (hookTree (Text.encode lintHook) 0o644) =
        .ok .appended final ∧
      final.look hookPlace = some (.file (Text.encode (withSection lintHook glob.toList)) 0o755) ∧
      scan .between (withSection lintHook glob.toList) =
        (front ++ piecesWith glob.toList, .between) ∧
      ∀ tree workdir directory force,
        (install workdir directory "it's" force).run tree =
          .error (.unsupportedGlob "it's") tree := by
  have accepted : acceptsGlob "*.kt\n\"$(rm a)`\\# )".toList = true := by decide
  have foreign : ¬ toolName <:+: lintHook := by
    rw [← mentions_iff]
    decide
  have installed := install_appended_hookTree lintHook _ accepted foreign
  obtain ⟨read, -, behind⟩ := glob_confined_iff (hookTree (Text.encode lintHook) plainMode) .top
    (.ofText "hooks") "*.kt\n\"$(rm a)`\\# )" false
  obtain ⟨hook, ⟨made, making, reading⟩, -, -, whole, -⟩ := behind _ _ installed (by decide)
  have reaches := reaches_hookTree (Text.encode lintHook) plainMode
  rw [Change.makeDirectories_of_isMade reaches.made] at making
  cases making
  rw [existing_of_look reaches (look_hookTree _ _) (by simp)] at reading
  cases reading
  have shape : withSection lintHook "*.kt\n\"$(rm a)`\\# )".toList =
      textInFront (some lintHook) ++ sectionFor "*.kt\n\"$(rm a)`\\# )".toList := rfl
  have closed : (scan .between (textInFront (some lintHook))).2 = .between := by decide +kernel
  refine ⟨_, _, (read accepted).1, installed, look_hookTree _ _,
    (congrArg (scan .between) shape).trans (whole.mp closed), fun tree workdir directory force => ?_⟩
  obtain ⟨-, refused, -⟩ := glob_confined_iff tree workdir directory "it's" force
  exact (refused (by decide)).2

/-- A hook of which the last line has an open quote. -/
def openHook : List Char := "#!/bin/sh\necho '\n".toList

/-- What the glob says is a part of the script that is installed, and not a literal in it. -/
theorem install_exposes_glob :
    let glob := ";touch PWNED;exit 0\n"
    acceptsGlob glob.toList = true ∧
    (install .top (.ofText "hooks") glob false).run (hookTree (Text.encode openHook) 0o644) =
      .ok .appended (hookTree (Text.encode (withSection openHook glob.toList)) 0o755) ∧
    bare glob <:+: (scan .between (withSection openHook glob.toList)).1 ∧
    .literal glob.toList ∉ (scan .between (withSection openHook glob.toList)).1 := by
  have accepted : acceptsGlob ";touch PWNED;exit 0\n".toList = true := by decide
  have foreign : ¬ toolName <:+: openHook := by
    rw [← mentions_iff]
    decide
  have shape : withSection openHook ";touch PWNED;exit 0\n".toList =
      textInFront (some openHook) ++ sectionFor ";touch PWNED;exit 0\n".toList := rfl
  have opened : (scan .between (textInFront (some openHook))).2 = .literal ['\n', '\n'] := rfl
  have exposed : (scan .word ";touch PWNED;exit 0\n".toList).1 = bare ";touch PWNED;exit 0\n" := rfl
  refine ⟨accepted, install_appended_hookTree openHook _ accepted foreign, ?_, by decide +kernel⟩
  rw [shape, Shell.scan_append, opened, ← exposed]
  exact (scan_sectionFor_of_open _ _).trans (List.suffix_append _ _).isInfix

end Hook

end StagedFormat
