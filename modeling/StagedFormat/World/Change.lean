import StagedFormat.World.FileTree

/-!
# Changes that may stop half way

A function from trees to trees says what becomes of a tree if all goes well.  A change also says
what is left if it does not: it goes through the tree step by step, and what was done before the
step that failed stays done.  Directories are made in this way, one after another.
-/

set_option autoImplicit false

namespace StagedFormat

/-- A computation that changes the file tree and leaves one also where it fails. -/
abbrev Change (ε α : Type) := EStateM ε FileTree α

namespace Change

variable {ε α : Type}

/-- A step that is done as a whole or not at all. -/
def step (act : FileTree → Except ε FileTree) : Change ε Unit := do
  set (← ofExcept (act (← get)))

/-- Makes the directories on the way along names that are missing, from a directory on.  No file
may be in the way. -/
def makeMissing (place : Location) : List (List UInt8) → Change AccessError Unit
  | [] => pure ()
  | name :: rest =>
    if name = [] ∨ name = FileTree.sameName then makeMissing place rest
    else if name = FileTree.parentName then makeMissing place.parent rest
    else if FileTree.longestName < name.length then throw (.system .nameTooLong)
    else do
      let tree ← get
      match tree.look (place.child name) with
      | some .directory => makeMissing (place.child name) rest
      | some (.file _ _) => throw (.system .alreadyExists)
      | none =>
        set (tree.put (place.child name) .directory)
        makeMissing (place.child name) rest

/-- Makes a directory and all directories above it.  Those that exist are left alone.  A path that
ends with `.` does not make the directory that it names, only those above it. -/
def makeDirectories (workdir : Location) (path : Path) : Change AccessError Unit :=
  let start := FileTree.origin workdir path
  let reversed := path.names.reverse.dropWhile List.isEmpty
  if path.bytes.contains 0 then throw .nulInPath
  else if FileTree.longestPath < path.bytes.length then throw (.system .nameTooLong)
  else if reversed = [] then pure ()
  else do
    match (← get).ensureDirectory start reversed with
    | .error (.system .notFound) =>
      makeMissing start (FileTree.namesAbove reversed).reverse
      step (·.ensureDirectory start reversed)
    | .error error => throw error
    | .ok made => set made

end Change

end StagedFormat
