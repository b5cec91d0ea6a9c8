import StagedFormat.Text.Blank
import StagedFormat.Text.Pieces

/-!
# The section of a hook

A hook is a shell script.  The lines in it that call this program stand between two markers, so
that they can be taken out again and other lines of the hook stay as they are.
-/

set_option autoImplicit false

namespace StagedFormat.Hook

def beginMarker : List Char := "# >>> spotless-staged >>>".toList

def endMarker : List Char := "# <<< spotless-staged <<<".toList

def toolName : List Char := "spotless-staged".toList

/-- The lines of the section before the glob, up to and including the quote that opens it. -/
def beforeGlob : List Char :=
  beginMarker
    ++ ("\n(\n    set -f\n    IFS='\n'\n    set --\n    for file in $(git -c core.quotePath=false"
      ++ " diff --cached --name-only --diff-filter=ACMR -- '").toList

/-- The lines of the section after the glob, from the quote that closes it on. -/
def afterGlob : List Char :=
  ("'); do\n        set -- \"$@\" \"$file\"\n    done\n    if [ $# -gt 0 ]; then\n"
      ++ "        exec spotless-staged -- \"$@\"\n    fi\n) || exit $?\n").toList
    ++ endMarker ++ ['\n']

/-- The section that formats the staged files which a glob matches.  File names are told apart by
line ends only, and no word of them is taken for an option. -/
def sectionFor (glob : List Char) : List Char :=
  beforeGlob ++ glob ++ afterGlob

def header : List Char :=
  ("#!/bin/sh\n# spotless-staged pre-commit hook\n"
    ++ "# Formats staged files with substantive changes\n\n").toList

def isBegin (line : List Char) : Bool :=
  Text.trim line == beginMarker

def isEnd (line : List Char) : Bool :=
  Text.trim line == endMarker

/-- The lines outside of sections, if the first one is inside a section or not. -/
def linesOutside (inside : Bool) : List (List Char) → List (List Char)
  | [] => []
  | line :: rest =>
    if isBegin line then linesOutside true rest
    else if isEnd line then linesOutside false rest
    else if inside then linesOutside true rest
    else line :: linesOutside false rest

/-- Lines as a text in which each ends with a line feed; no text at all if they are empty. -/
def unlines (lines : List (List Char)) : List Char :=
  match ['\n'].intercalate lines with
  | [] => []
  | text => text ++ ['\n']

def removeSection (content : List Char) : List Char :=
  unlines (linesOutside false (Text.lines content))

end StagedFormat.Hook
