/-!
# Which files are formatted

The candidates of a run fall into those that are formatted and those that are skipped, each for a
reason.  Both lists keep the order of the candidates.
-/

set_option autoImplicit false

namespace StagedFormat

inductive SkipReason
  | whitespaceOnly
  | notIncluded
  deriving DecidableEq, Repr

def SkipReason.text : SkipReason → String
  | whitespaceOnly => "only EOL/whitespace changes"
  | notIncluded => "not matched by include patterns"

def SkipReason.name : SkipReason → String
  | whitespaceOnly => "whitespace_only"
  | notIncluded => "not_included"

structure SkippedFile where
  file : String
  reason : SkipReason
  deriving DecidableEq, Repr

structure Selection where
  qualifying : List String := []
  skipped : List SkippedFile := []
  deriving DecidableEq, Repr

namespace Selection

def keep (selection : Selection) (file : String) : Selection :=
  { selection with qualifying := selection.qualifying ++ [file] }

def skip (selection : Selection) (file : String) (reason : SkipReason) : Selection :=
  { selection with skipped := selection.skipped ++ [⟨file, reason⟩] }

def isEmpty (selection : Selection) : Bool :=
  selection.qualifying.isEmpty

@[simp] theorem qualifying_keep (selection : Selection) (file : String) :
    (selection.keep file).qualifying = selection.qualifying ++ [file] := rfl

@[simp] theorem skipped_keep (selection : Selection) (file : String) :
    (selection.keep file).skipped = selection.skipped := rfl

@[simp] theorem qualifying_skip (selection : Selection) (file : String) (reason : SkipReason) :
    (selection.skip file reason).qualifying = selection.qualifying := rfl

@[simp] theorem skipped_skip (selection : Selection) (file : String) (reason : SkipReason) :
    (selection.skip file reason).skipped = selection.skipped ++ [⟨file, reason⟩] := rfl

end Selection

end StagedFormat
