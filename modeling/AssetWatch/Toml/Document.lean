import AssetWatch.Toml.Statement

/-!
# Documents

The statements of a document build one tree. A table comes to be in one of three ways: by
its own header, on the way of a longer header, or by a dotted key. A header may still be
given to a table that so far was only on the way, which then counts as written there; no
table has two headers, a dotted key adds to no table that has a header, and no header names
a table that a dotted key made.
-/

namespace AssetWatch.Toml

open Data (Value)

/-- How a table came to be. -/
inductive Origin
  | header
  | onTheWay
  | dotted
  deriving DecidableEq

inductive Node
  | value (v : Value)
  | table (origin : Origin) (entries : List (String × Node))
  /-- an array of tables, the last one in front -/
  | tables (last : List (String × Node)) (before : List (List (String × Node)))
  deriving Inhabited

namespace Node

abbrev Entries := List (String × Node)

def replace (entries : Entries) (name : String) (node : Node) : Entries :=
  entries.map fun e => if e.1 = name then (name, node) else e

/-- Changes the entries of the table that a path leads to, making the tables that are
missing on the way. `dotted` is for the path of a dotted key. -/
def changeAt {β : Type} (dotted : Bool) (change : Origin → Entries → Option (β × Entries)) :
    List String → Origin → Entries → Option (β × Entries)
  | [], origin, entries => change origin entries
  | name :: path, _, entries =>
    match entries.lookup name with
    | none => do
      let origin := if dotted then .dotted else .onTheWay
      let (b, inner) ← changeAt dotted change path origin []
      return (b, entries ++ [(name, .table origin inner)])
    | some (.value _) => none
    | some (.table origin inner) =>
      if dotted && origin == .header then none
      else do
        let (b, inner) ← changeAt dotted change path origin inner
        return (b, replace entries name (.table origin inner))
    | some (.tables last before) => do
      let (b, last) ← changeAt dotted change path .header last
      return (b, replace entries name (.tables last before))

mutual

def toValue : Node → Value
  | .value v => v
  | .table _ entries => .table (toEntries entries)
  | .tables last before => .tables (toItems before [toEntries last])

def toEntries : Entries → List (String × Value)
  | [] => []
  | (name, node) :: rest => (name, toValue node) :: toEntries rest

/-- The tables of an array in the order of the document, in front of `after`. -/
def toItems : List Entries → List (List (String × Value)) → List (List (String × Value))
  | [], after => after
  | entries :: before, after => toItems before (toEntries entries :: after)

end

end Node

/-- The table that entries go to: the document itself, a table under its header, or one more
table of an array. -/
inductive Place
  | document
  | table (path : List String) (name : String)
  | item (path : List String) (name : String)

/-- The tree so far, and the table that is being filled. -/
structure Draft where
  root : Node.Entries := []
  place : Place := .document
  entries : Node.Entries := []

namespace Draft

/-- Puts the table that is being filled into the tree. -/
def close (d : Draft) : Option Node.Entries :=
  match d.place with
  | .document => some d.entries
  | .table path name => do
    let (_, root) ← Node.changeAt false (fun _ entries =>
      if (entries.lookup name).isSome then none
      else some ((), entries ++ [(name, .table .header d.entries)])) path .header d.root
    return root
  | .item path name => do
    let (_, root) ← Node.changeAt false (fun _ entries =>
      match entries.lookup name with
      | none => some ((), entries ++ [(name, .tables d.entries [])])
      | some (.tables last before) =>
        some ((), Node.replace entries name (.tables d.entries (last :: before)))
      | some _ => none) path .header d.root
    return root

/-- Takes the entries of a table that was only on the way. -/
def takeImplied (name : String) (entries : Node.Entries) : Option (Node.Entries × Node.Entries) :=
  match entries.lookup name with
  | none => some ([], entries)
  | some (.table .onTheWay inner) => some (inner, entries.filter (·.1 ≠ name))
  | some _ => none

/-- The name may head one more table of an array. -/
def checkItem (name : String) (entries : Node.Entries) : Option (Unit × Node.Entries) :=
  match entries.lookup name with
  | none | some (.tables ..) => some ((), entries)
  | some _ => none

def addEntry (path : List String) (name : String) (v : Value) (entries : Node.Entries) :
    Option Node.Entries := do
  let (_, entries) ← Node.changeAt true (fun origin entries =>
    if (!path.isEmpty && origin != .dotted) || (entries.lookup name).isSome then none
    else some ((), entries ++ [(name, .value v)])) path .header entries
  return entries

def add (d : Draft) : Statement → Option Draft
  | .entry key v => do
    let name ← key.getLast?
    return { d with entries := ← addEntry key.dropLast name v d.entries }
  | .header key => do
    let name ← key.getLast?
    let (inner, root) ←
      Node.changeAt false (fun _ => takeImplied name) key.dropLast .header (← d.close)
    return { root, place := .table key.dropLast name, entries := inner }
  | .arrayHeader key => do
    let name ← key.getLast?
    let (_, root) ←
      Node.changeAt false (fun _ => checkItem name) key.dropLast .header (← d.close)
    return { root, place := .item key.dropLast name, entries := [] }

end Draft

/-- The table that a text describes; `none` if it is no document. -/
def parse (content : String) : Option Value := do
  let draft ← (← statements content).foldlM Draft.add {}
  return .table (Node.toEntries (← draft.close))

end AssetWatch.Toml
