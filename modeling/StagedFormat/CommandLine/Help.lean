import StagedFormat.CommandLine.Basic
import StagedFormat.Terminal.Style

/-!
# Pages of help

The lines of each page that a command line can ask for.  Titles, and what is to be typed as it
stands, are styled.
-/

set_option autoImplicit false

namespace StagedFormat.CommandLine

def title (text : String) : String :=
  Terminal.Style.heading.apply text

/-- What is to be typed as it stands. -/
def literal (text : String) : String :=
  Terminal.Style.literal.apply text

def Subject.call : Subject → String
  | program => literal "spotless-staged"
  | installHook => literal "spotless-staged install-hook"
  | help => literal "spotless-staged help"

def Subject.forms (subject : Subject) : List String :=
  match subject with
  | program => [subject.call ++ " [OPTIONS] [FILES]...", subject.call ++ " <COMMAND>"]
  | installHook => [subject.call ++ " [OPTIONS]"]
  | help => [subject.call ++ " [COMMAND]..."]

def Subject.usageWith (subject : Subject) (option : String) : String :=
  title "Usage:" ++ " " ++ subject.call ++ " " ++ literal option
    ++ (if subject = .program then " [FILES]..." else "")

def Subject.usage (subject : Subject) : List String :=
  subject.forms.zipIdx.map fun form =>
    (if form.2 = 0 then title "Usage:" else "      ") ++ " " ++ form.1

namespace Page

def names (short long : String) : String :=
  "  " ++ literal short ++ ", " ++ literal long

def name (long : String) : String :=
  "      " ++ literal long

def commandLines : List String :=
  ["",
    title "Commands:",
    "  " ++ literal "install-hook" ++ "  Install a pre-commit hook that runs spotless-staged",
    "  " ++ literal "help" ++ "          Print this message or the help of the given subcommand(s)",
    ""]

def longLines : List String :=
  ["Run spotless:apply on staged files from a git pre-commit hook.",
    "",
    "Files whose staged changes are only end-of-line whitespace are skipped.",
    "The rest are passed to the Maven wrapper in a single invocation.",
    ""]
  ++ Subject.program.usage ++ commandLines ++
  [title "Arguments:",
    "  [FILES]...",
    "          Staged files to format, relative to the repository root",
    "",
    title "Options:",
    names "-v" "--verbose",
    "          Enable verbose output",
    "",
    name "--json",
    "          Output in JSON format (machine-readable)",
    "",
    name "--mode" ++ " <MODE>",
    "          How files are passed to Spotless: paths, patterns",
    "",
    name "--dry-run",
    "          Show what would run without invoking the wrapper",
    "",
    names "-h" "--help",
    "          Print help (see a summary with '-h')",
    "",
    names "-V" "--version",
    "          Print version"]

def shortLines : List String :=
  ["Format staged files with Spotless before committing",
    ""]
  ++ Subject.program.usage ++ commandLines ++
  [title "Arguments:",
    "  [FILES]...  Staged files to format, relative to the repository root",
    "",
    title "Options:",
    names "-v" "--verbose" ++ "      Enable verbose output",
    name "--json" ++ "         Output in JSON format (machine-readable)",
    name "--mode" ++ " <MODE>  How files are passed to Spotless: paths, patterns",
    name "--dry-run" ++ "      Show what would run without invoking the wrapper",
    names "-h" "--help" ++ "         Print help (see more with '--help')",
    names "-V" "--version" ++ "      Print version"]

def installHookLines : List String :=
  ["Install a pre-commit hook that runs spotless-staged",
    ""]
  ++ Subject.installHook.usage ++
  ["",
    title "Options:",
    names "-f" "--force" ++ "        Rewrite the hook section if it is already installed",
    names "-v" "--verbose" ++ "      Enable verbose output",
    name "--glob"
      ++ " <GLOB>  Staged files matching this pathspec glob are formatted [default: *.java]",
    name "--json" ++ "         Output in JSON format (machine-readable)",
    names "-h" "--help" ++ "         Print help"]

def helpLines : List String :=
  ["Print this message or the help of the given subcommand(s)",
    ""]
  ++ Subject.help.usage ++
  ["",
    title "Arguments:",
    "  [COMMAND]...  Print help for the subcommand(s)"]

def versionLines : List String :=
  ["spotless-staged 0.1.0"]

def lines : Page → List String
  | long => longLines
  | short => shortLines
  | installHook => installHookLines
  | help => helpLines
  | version => versionLines

def text (page : Page) : String :=
  String.join (page.lines.map fun line => line ++ "\n")

end Page

end StagedFormat.CommandLine
