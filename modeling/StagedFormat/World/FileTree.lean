import StagedFormat.World.AccessError
import StagedFormat.World.Path

/-!
# The file tree

A tree says for every place what is there: nothing, a directory, or a file with its bytes and its
permission bits.  The functions that take a path walk it name by name from the top or from a
working directory.  They fail where names are missing, too long or in the way, and where the bits of
a file forbid to read or to run it.  Writing, changing modes and making directories are never
forbidden: only the bits of files are kept, and those for writing count for nothing.  A function
that changes something returns the changed tree and touches one place only.
-/

set_option autoImplicit false

namespace StagedFormat

/-- A place in a file tree: the names that lead to it, the last one first, and their number, by
which most places can be told apart. -/
structure Location where
  names : List (List UInt8)
  depth : Nat
  depth_eq : names.length = depth
  deriving Repr

namespace Location

def of (names : List (List UInt8)) : Location := ⟨names, names.length, rfl⟩

@[ext] theorem ext {left right : Location} (names : left.names = right.names) : left = right := by
  obtain ⟨names₁, depth₁, rfl⟩ := left
  obtain ⟨names₂, depth₂, rfl⟩ := right
  subst names
  rfl

instance : DecidableEq Location := fun left right =>
  if depth : left.depth = right.depth then
    if names : left.names = right.names then .isTrue (ext names)
    else .isFalse fun same => names (same ▸ rfl)
  else .isFalse fun same => depth (same ▸ rfl)

def top : Location := .of []

instance : Inhabited Location := ⟨top⟩

/-- The directory that a place is in; the top is in itself. -/
def parent (place : Location) : Location :=
  ⟨place.names.tail, place.depth - 1, by simp [place.depth_eq]⟩

def child (place : Location) (name : List UInt8) : Location :=
  ⟨name :: place.names, place.depth + 1, by simp [place.depth_eq]⟩

def path (place : Location) : Path :=
  match place.names with
  | [] => ⟨[Path.slash]⟩
  | names => ⟨names.reverse.flatMap fun name => Path.slash :: name⟩

end Location

inductive Entry
  | directory
  | file (content : List UInt8) (mode : Nat)
  deriving DecidableEq, Repr

def plainMode : Nat := 0o644

def executableMode : Nat := 0o755

/-- How a process stands to the files of a tree: it says which bits of their modes count. -/
inductive Standing
  | superuser
  | owner
  | group
  | other
  deriving DecidableEq, Inhabited, Repr

namespace Standing

/-- The three bits of a mode that count.  Those of a superuser are all bits together. -/
def bits (standing : Standing) (mode : Nat) : Nat :=
  match standing with
  | superuser => (mode >>> 6 ||| mode >>> 3 ||| mode) &&& 0o7
  | owner => mode >>> 6 &&& 0o7
  | group => mode >>> 3 &&& 0o7
  | other => mode &&& 0o7

def mayRead (standing : Standing) (mode : Nat) : Bool :=
  standing = superuser || standing.bits mode &&& 0o4 != 0

def mayRun (standing : Standing) (mode : Nat) : Bool :=
  standing.bits mode &&& 0o1 != 0

@[simp] theorem mayRead_plainMode (standing : Standing) : standing.mayRead plainMode = true := by
  cases standing <;> rfl

@[simp] theorem mayRead_executableMode (standing : Standing) :
    standing.mayRead executableMode = true := by
  cases standing <;> rfl

end Standing

/-- A file tree as a process finds it. -/
structure FileTree where
  entryAt : Location → Option Entry
  standing : Standing

namespace FileTree

def empty : FileTree := ⟨fun _ => none, .owner⟩

/-- What is at a place; the top is always a directory. -/
def look (tree : FileTree) (place : Location) : Option Entry :=
  if place = .top then some .directory else tree.entryAt place

def put (tree : FileTree) (place : Location) (entry : Entry) : FileTree :=
  { tree with entryAt := fun other => if other = place then some entry else tree.entryAt other }

def remove (tree : FileTree) (place : Location) : FileTree :=
  { tree with entryAt := fun other => if other = place then none else tree.entryAt other }

/-! ## Walking a path -/

def sameName : List UInt8 := [0x2E]

def parentName : List UInt8 := [0x2E, 0x2E]

def longestName : Nat := 255

def longestPath : Nat := 4095

/-- One step from a place that has to be a directory. -/
def step (tree : FileTree) (place : Location) (name : List UInt8) :
    Except AccessError Location :=
  match tree.look place with
  | none => .error (.system .notFound)
  | some (.file _ _) => .error (.system .notADirectory)
  | some .directory =>
    if name = [] ∨ name = sameName then .ok place
    else if name = parentName then .ok place.parent
    else if longestName < name.length then .error (.system .nameTooLong)
    else .ok (place.child name)

/-- Follows names from a place.  Every place but the last one has to be a directory. -/
def walk (tree : FileTree) (place : Location) : List (List UInt8) → Except AccessError Location
  | [] => .ok place
  | name :: rest =>
    match tree.step place name with
    | .error error => .error error
    | .ok next => tree.walk next rest

def origin (workdir : Location) (path : Path) : Location :=
  if path.isAbsolute then .top else workdir

def find (tree : FileTree) (workdir : Location) (path : Path) : Except AccessError Location :=
  if path.bytes.contains 0 then .error .nulInPath
  else if path.bytes = [] then .error (.system .notFound)
  else if longestPath < path.bytes.length then .error (.system .nameTooLong)
  else tree.walk (origin workdir path) path.names

def entry? (tree : FileTree) (workdir : Location) (path : Path) : Option Entry :=
  match tree.find workdir path with
  | .error _ => none
  | .ok place => tree.look place

def exists? (tree : FileTree) (workdir : Location) (path : Path) : Bool :=
  (tree.entry? workdir path).isSome

def isFile (tree : FileTree) (workdir : Location) (path : Path) : Bool :=
  match tree.entry? workdir path with
  | some (.file _ _) => true
  | _ => false

def isDirectory (tree : FileTree) (workdir : Location) (path : Path) : Bool :=
  tree.entry? workdir path == some .directory

/-! ## Reading and writing -/

def read (tree : FileTree) (workdir : Location) (path : Path) :
    Except AccessError (List UInt8) := do
  let place ← tree.find workdir path
  match tree.look place with
  | none => .error (.system .notFound)
  | some .directory => .error (.system .isADirectory)
  | some (.file content mode) =>
    if tree.standing.mayRead mode then .ok content else .error (.system .permissionDenied)

def readText (tree : FileTree) (workdir : Location) (path : Path) :
    Except AccessError (List Char) := do
  let content ← tree.read workdir path
  match Text.decode? content with
  | none => .error .notText
  | some text => .ok text

/-- Writes a file.  One that exists keeps its permission bits. -/
def write (tree : FileTree) (workdir : Location) (path : Path) (content : List UInt8) :
    Except AccessError FileTree := do
  let place ← tree.find workdir path
  match tree.look place with
  | some .directory => .error (.system .isADirectory)
  | some (.file _ mode) => .ok (tree.put place (.file content mode))
  | none => .ok (tree.put place (.file content plainMode))

def setMode (tree : FileTree) (workdir : Location) (path : Path) (mode : Nat) :
    Except AccessError FileTree := do
  let place ← tree.find workdir path
  match tree.look place with
  | none => .error (.system .notFound)
  | some .directory => .ok tree
  | some (.file content _) => .ok (tree.put place (.file content mode))

/-! ## Making directories -/

/-- Makes the directory that reversed names lead to.  Its own parent has to exist. -/
def makeDirectory (tree : FileTree) (start : Location) : List (List UInt8) →
    Except AccessError FileTree
  | [] => .error (.system .alreadyExists)
  | name :: parents => do
    let place ← tree.walk start parents.reverse
    let target ← tree.step place name
    if name = [] ∨ name = sameName ∨ name = parentName then .error (.system .alreadyExists)
    else if (tree.look target).isSome then .error (.system .alreadyExists)
    else .ok (tree.put target .directory)

def leadsToDirectory (tree : FileTree) (start : Location) (reversed : List (List UInt8)) : Bool :=
  match tree.walk start reversed.reverse with
  | .error _ => false
  | .ok place => tree.look place == some .directory

def ensureDirectory (tree : FileTree) (start : Location) (reversed : List (List UInt8)) :
    Except AccessError FileTree :=
  match tree.makeDirectory start reversed with
  | .ok made => .ok made
  | .error error =>
    if error = .system .alreadyExists ∧ tree.leadsToDirectory start reversed then .ok tree
    else .error error

/-- The names above the last one of reversed names, where empty names and `.` do not count. -/
def namesAbove (reversed : List (List UInt8)) : List (List UInt8) :=
  (reversed.dropWhile fun name => name.isEmpty || name == sameName).tail

@[simp] theorem look_top (tree : FileTree) : tree.look .top = some .directory := by
  simp [look]

@[simp] theorem standing_put (tree : FileTree) (place : Location) (entry : Entry) :
    (tree.put place entry).standing = tree.standing := rfl

theorem look_put_self (tree : FileTree) (place : Location) (entry : Entry)
    (below : place ≠ .top) : (tree.put place entry).look place = some entry := by
  simp [look, put, below]

theorem look_put_of_ne (tree : FileTree) (place other : Location) (entry : Entry)
    (different : other ≠ place) : (tree.put place entry).look other = tree.look other := by
  simp [look, put, different]

end FileTree

end StagedFormat
