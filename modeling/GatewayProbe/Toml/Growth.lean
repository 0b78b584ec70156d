/-
Which lines of a TOML document may add to which tables.

A document is a list of statements. Pairs add to the table of the last header, and headers open
tables of their own. A table may be defined once: a header may still define a table that so far was
only part of another header's path, a dotted key may add to tables that dotted keys made, and
nothing may add to a value between braces or brackets.

* `descend` — follows a path from a table, making the tables that are missing;
* `addPair` — one pair, under a key that may be dotted;
* `ofStatements?` — the table a list of statements defines.
-/
import GatewayProbe.Toml.Basic

namespace GatewayProbe.Toml

/-- The entries of a table, in the order they were made. -/
abbrev Entries := List (String × Toml)

/-- Puts a value in the place of the entry `key`. -/
def replaceEntry (key : String) (value : Toml) (entries : Entries) : Entries :=
  entries.map fun entry => if entry.1 = key then (key, value) else entry

/-- Applies `change` to the table at the end of a path, which starts at a table of the given style
and entries. A path of a dotted key may not enter tables that have headers. -/
def descend (isDotted : Bool) (change : Style → Entries → Option Entries) :
    List String → Style → Entries → Option Entries
  | [], style, entries => change style entries
  | key :: path, _, entries =>
    match entries.lookup key with
    | none => do
      let style := if isDotted then .dotted else .implied
      let inner ← descend isDotted change path style []
      return entries ++ [(key, .table style inner)]
    | some (.table style inner) =>
      if style = .braced ∨ (isDotted ∧ style = .header) then none
      else do
        let inner ← descend isDotted change path style inner
        return replaceEntry key (.table style inner) entries
    | some (.list true rows) =>
      match rows.getLast? with
      | some (.table style inner) => do
        let inner ← descend isDotted change path style inner
        return replaceEntry key (.list true (rows.dropLast ++ [.table style inner])) entries
      | _ => none
    | some _ => none

/-- Adds a pair to a table. The table that a dotted key leads to must be made of dotted keys. -/
def addPair (path : List String) (key : String) (value : Toml) (entries : Entries) :
    Option Entries :=
  descend true (fun style entries =>
    if (!path.isEmpty && style ≠ .dotted) || (entries.lookup key).isSome then none
    else some (entries ++ [(key, value)])) path .header entries

/-- Adds pairs between braces to an empty table. -/
def ofPairs? (pairs : List (List String × String × Toml)) : Option Toml :=
  (pairs.foldlM (fun entries (path, key, value) => addPair path key value entries) []).map
    (.table .braced)

/-- One line or group of lines of a document. -/
inductive Statement where
  | pair (path : List String) (key : String) (value : Toml)
  | header (path : List String) (key : String)
  /-- A header with double brackets, which adds a row to a list of tables. -/
  | row (path : List String) (key : String)

/-- The last header read. -/
structure Opening where
  path : List String
  key : String
  isRow : Bool

/-- A document as far as it was read: what earlier headers defined, the last header, and the table
that pairs are added to. -/
structure Growth where
  root : Entries
  opening : Option Opening
  current : Entries

namespace Growth

/-- Puts the present table in its place. -/
def close (g : Growth) : Option Entries :=
  match g.opening with
  | none => some g.current
  | some o =>
    descend false (fun _ entries =>
      match entries.lookup o.key with
      | none =>
        let made := Toml.table .header g.current
        some (entries ++ [(o.key, if o.isRow then .list true [made] else made)])
      | some (.list true rows) =>
        if o.isRow then
          some (replaceEntry o.key (.list true (rows ++ [.table .header g.current])) entries)
        else none
      | some _ => none) o.path .header g.root

/-- Takes the table `key` out of `entries`, if it is there and a header may still define it. -/
def takeImplied (key : String) (entries : Entries) : Option (Entries × Entries) :=
  match entries.lookup key with
  | none => some ([], entries)
  | some (.table .implied inner) => some (inner, entries.filter fun entry => entry.1 ≠ key)
  | some _ => none

/-- The entries that the table of a header already has, and the root without that table. -/
def openTable (path : List String) (key : String) (root : Entries) : Option (Entries × Entries) :=
  match path with
  | [] => takeImplied key root
  | step :: path =>
    match root.lookup step with
    | none => some ([], root)
    | some (.table style inner) =>
      if style = .braced then none
      else (openTable path key inner).map fun (found, inner) =>
        (found, replaceEntry step (.table style inner) root)
    | some (.list true rows) =>
      match rows.getLast? with
      | some (.table style inner) => (openTable path key inner).map fun (found, inner) =>
          (found, replaceEntry step (.list true (rows.dropLast ++ [.table style inner])) root)
      | _ => none
    | some _ => none

/-- Makes the tables of a header's path, and checks that the header may stand here. -/
def checkRow (path : List String) (key : String) (root : Entries) : Option Entries :=
  descend false (fun _ entries =>
    match entries.lookup key with
    | none => some entries
    | some (.list true _) => some entries
    | some _ => none) path .header root

/-- Reads one statement. -/
def step (g : Growth) : Statement → Option Growth
  | .pair path key value => do
    let current ← addPair path key value g.current
    return { g with current }
  | .header path key => do
    let root ← g.close
    let root ← descend false (fun _ entries => some entries) path .header root
    let (found, root) ← openTable path key root
    return ⟨root, some ⟨path, key, false⟩, found⟩
  | .row path key => do
    let root ← g.close
    let root ← checkRow path key root
    return ⟨root, some ⟨path, key, true⟩, []⟩

end Growth

/-- The table that a list of statements defines. -/
def ofStatements? (statements : List Statement) : Option Toml := do
  let grown ← statements.foldlM Growth.step ⟨[], none, []⟩
  return .table .header (← grown.close)

end GatewayProbe.Toml
