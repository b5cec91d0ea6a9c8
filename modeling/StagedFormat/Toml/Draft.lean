import StagedFormat.Toml.Value

/-!
# Tables under construction

While a document is read, its tables remember how they came about, because that decides who may
add to them: a table that is only implied by a longer header may still get a header of its own,
one that came from a dotted key may be extended by dotted keys, and one with a header is written
once.  `Draft.close` forgets these things and leaves the value.
-/

set_option autoImplicit false

namespace StagedFormat.Toml

/-- How a table came about: as a part of a longer header or of a dotted key, or by a header of its
own. -/
inductive Origin
  | implied
  | dotted
  | header
  deriving DecidableEq, Repr

/-- What is under a key.  Of an array of tables, the last one may still grow, and the earlier ones
are kept from the last one backwards. -/
inductive Node
  | leaf (value : Value)
  | table (origin : Origin) (entries : List (String × Node))
  | tables (last : List (String × Node)) (earlier : List (List (String × Node)))

abbrev Draft := List (String × Node)

namespace Draft

def update (key : String) (change : Option Node → Option Node) : Draft → Option Draft
  | [] => (change none).map fun node => [(key, node)]
  | (other, held) :: rest =>
    if other = key then (change (some held)).map fun node => (other, node) :: rest
    else (update key change rest).map ((other, held) :: ·)

/-- Changes the table at the end of a path and makes the tables on the way that are missing.
A dotted path may not lead into tables with headers. -/
def within (dotted : Bool) (change : Origin → Draft → Option Draft) :
    List String → Origin → Draft → Option Draft
  | [], origin, draft => change origin draft
  | key :: path, _, draft =>
    draft.update key fun
      | none =>
        let origin := if dotted then Origin.dotted else Origin.implied
        (within dotted change path origin []).map (.table origin)
      | some (.leaf _) => none
      | some (.table origin entries) =>
        if dotted ∧ origin = .header then none
        else (within dotted change path origin entries).map (.table origin)
      | some (.tables last earlier) =>
        (within dotted change path .header last).map (.tables · earlier)

/-- Adds a value under a dotted key.  A key with a path may add only to a table that came from
dotted keys. -/
def addValue (path : List String) (key : String) (value : Value) (draft : Draft) : Option Draft :=
  draft.within true
    (fun origin table =>
      if path ≠ [] ∧ origin ≠ .dotted then none
      else
        table.update key fun
          | none => some (.leaf value)
          | some _ => none)
    path .header

def addTable (path : List String) (key : String) (draft : Draft) : Option Draft :=
  draft.within false
    (fun _ table =>
      table.update key fun
        | none => some (.table .header [])
        | some (.table .implied entries) => some (.table .header entries)
        | some _ => none)
    path .header

def addElement (path : List String) (key : String) (draft : Draft) : Option Draft :=
  draft.within false
    (fun _ table =>
      table.update key fun
        | none => some (.tables [] [])
        | some (.tables last earlier) => some (.tables [] (last :: earlier))
        | some _ => none)
    path .header

end Draft

mutual

def Node.close : Node → Value
  | .leaf value => value
  | .table _ entries => .table (closeEntries entries)
  | .tables last earlier => .array ((.table (closeEntries last) :: closeTables earlier).reverse)

def closeEntries : List (String × Node) → Table
  | [] => []
  | (key, node) :: rest => insertEntry key node.close (closeEntries rest)

def closeTables : List (List (String × Node)) → List Value
  | [] => []
  | entries :: rest => .table (closeEntries entries) :: closeTables rest

end

def Draft.close (draft : Draft) : Table :=
  closeEntries draft

end StagedFormat.Toml
