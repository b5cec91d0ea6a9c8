import StagedFormat.Glob.Basic

/-!
# Reading a glob

The text of a glob is read from left to right.  The reader knows how many characters it has read,
the last of them, and the tokens found so far.  It refuses stars that are neither `*` nor a `**`
between slashes, and brackets that are not closed.
-/

set_option autoImplicit false

namespace StagedFormat.Glob

def specifiers : List Char → List Specifier
  | first :: '-' :: last :: rest => .range first last :: specifiers rest
  | c :: rest => .single c :: specifiers rest
  | [] => []

def splitAtBracket : List Char → Option (List Char × List Char)
  | [] => none
  | c :: rest =>
    if c = ']' then some ([], rest)
    else (splitAtBracket rest).map fun parts => (c :: parts.1, parts.2)

theorem length_of_splitAtBracket (text inside outside : List Char)
    (found : splitAtBracket text = some (inside, outside)) :
    text.length = inside.length + 1 + outside.length := by
  induction text generalizing inside with
  | nil => simp [splitAtBracket] at found
  | cons c rest ih =>
    simp only [splitAtBracket] at found
    split at found
    · cases found; simp [Nat.add_comm]
    · obtain ⟨parts, split, same⟩ := Option.map_eq_some_iff.mp found
      cases same
      have := ih parts.1 split
      simp only [List.length_cons]
      omega

/-- Adds a `**`.  Right after another one that is not the first token it is left out. -/
def addDirectories (reversed : List Token) : List Token :=
  match reversed with
  | .anyDirectories :: _ :: _ => reversed
  | _ => .anyDirectories :: reversed

/-- Reads on from the middle of a glob: `position` characters are read, `before` is the last of
them, and `reversed` holds the tokens found, the last one first. -/
def compileFrom (position : Nat) (before : Option Char) (reversed : List Token)
    (text : List Char) : Except Error (List Token) :=
  match text with
  | [] => .ok reversed.reverse
  | '?' :: rest => compileFrom (position + 1) (some '?') (.anyChar :: reversed) rest
  | '*' :: '*' :: '*' :: _ => .error ⟨position + 2, .tooManyStars⟩
  | '*' :: '*' :: rest =>
    if before = none ∨ before = some '/' then
      match rest with
      | [] => .ok (addDirectories reversed).reverse
      | '/' :: more => compileFrom (position + 3) (some '/') (addDirectories reversed) more
      | _ => .error ⟨position + 2, .partialDirectories⟩
    else .error ⟨position - 1, .partialDirectories⟩
  | '*' :: rest => compileFrom (position + 1) (some '*') (.anySequence :: reversed) rest
  | '[' :: '!' :: first :: rest =>
    match found : splitAtBracket rest with
    | none => .error ⟨position, .unclosedRange⟩
    | some (inside, outside) =>
      have : outside.length < rest.length := by
        have := length_of_splitAtBracket rest inside outside found
        omega
      compileFrom (position + inside.length + 4) (some ']')
        (.anyExcept (specifiers (first :: inside)) :: reversed) outside
  | '[' :: first :: rest =>
    if first = '!' then .error ⟨position, .unclosedRange⟩
    else
      match found : splitAtBracket rest with
      | none => .error ⟨position, .unclosedRange⟩
      | some (inside, outside) =>
        have : outside.length < rest.length := by
          have := length_of_splitAtBracket rest inside outside found
          omega
        compileFrom (position + inside.length + 3) (some ']')
          (.anyWithin (specifiers (first :: inside)) :: reversed) outside
  | ['['] => .error ⟨position, .unclosedRange⟩
  | c :: rest => compileFrom (position + 1) (some c) (.char c :: reversed) rest
termination_by text.length
decreasing_by all_goals (simp only [List.length_cons]; omega)

end StagedFormat.Glob

namespace StagedFormat.Glob

def compile (source : String) : Except Error Glob :=
  (compileFrom 0 none [] source.toList).map fun tokens => ⟨source, tokens⟩

end StagedFormat.Glob
