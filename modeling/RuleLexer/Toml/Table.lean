import RuleLexer.Toml.Value

/-!
# Tables under construction

The statements of a document fill its tables one after the other. A table can come about in three
ways, and each of them says what may still be added to it: its header may follow the headers of
tables inside it, which imply it; dotted keys may go on to fill a table that dotted keys have made,
but no other; and a value is complete from the start, so nothing can be added to a table or an array
that is written as one.
-/
namespace RuleLexer.Toml

/-- How a table came about. -/
inductive Origin
  | header
  /-- By the header of a table inside it. -/
  | implied
  /-- By a dotted key. -/
  | dotted
deriving DecidableEq, Repr

/-- What stands under a key. -/
inductive Node
  | value (value : Value)
  | table (origin : Origin) (entries : List (List Char × Node))
  /-- An array of tables, the last first. There is at least one. -/
  | tables (last : List (List Char × Node)) (before : List (List (List Char × Node)))

abbrev Entries := List (List Char × Node)

namespace Entries

def find? (entries : Entries) (key : List Char) : Option Node := entries.lookup key

/-- Puts a node under a key, at the place of the key if it is there already. -/
def put (key : List Char) (node : Node) : Entries → Entries
  | [] => [(key, node)]
  | (other, old) :: rest =>
    if other = key then (key, node) :: rest else (other, old) :: put key node rest

/-- Changes the entries of the table at the end of a path. Of an array of tables the path goes on in
the last one, and tables that are missing on the way are made. `dotted` tells a path of dotted keys,
which does not enter a table that has a header of its own. The change is told whether dotted keys
have made the table that it changes. -/
def changeAt (dotted : Bool) (change : Bool → Entries → Option Entries) :
    (madeByKeys : Bool) → (path : List (List Char)) → Entries → Option Entries
  | madeByKeys, [], entries => change madeByKeys entries
  | _, key :: path, entries =>
    match entries.find? key with
    | none => do
      let inner ← changeAt dotted change dotted path []
      return entries.put key (.table (if dotted then .dotted else .implied) inner)
    | some (.table origin inner) =>
      if dotted ∧ origin = .header then none
      else do
        let inner ← changeAt dotted change (origin = .dotted) path inner
        return entries.put key (.table origin inner)
    | some (.tables last before) => do
      let last ← changeAt dotted change false path last
      return entries.put key (.tables last before)
    | some (.value _) => none

/-- Adds a value under a key that is new. -/
def addValue (key : List Char) (value : Value) (entries : Entries) : Option Entries :=
  if (entries.find? key).isSome then none else some (entries.put key (.value value))

/-- Adds a value under a dotted key, whose last part is `key`. -/
def addPair (path : List (List Char)) (key : List Char) (value : Value) (entries : Entries) :
    Option Entries :=
  entries.changeAt true
    (fun madeByKeys inner =>
      if madeByKeys = path.isEmpty then none else inner.addValue key value)
    false path

/-- Adds the header of a table. -/
def addTable (path : List (List Char)) (key : List Char) (entries : Entries) : Option Entries :=
  entries.changeAt false
    (fun _ inner =>
      match inner.find? key with
      | none => some (inner.put key (.table .header []))
      | some (.table .implied old) => some (inner.put key (.table .header old))
      | _ => none)
    false path

/-- Adds the header of a further table to an array of tables. -/
def addToTables (path : List (List Char)) (key : List Char) (entries : Entries) :
    Option Entries :=
  entries.changeAt false
    (fun _ inner =>
      match inner.find? key with
      | none => some (inner.put key (.tables [] []))
      | some (.tables last before) => some (inner.put key (.tables [] (last :: before)))
      | _ => none)
    false path

/-- Adds a value under a dotted key inside the table of the last header. -/
def addPairAt (header : List (List Char)) (path : List (List Char)) (key : List Char)
    (value : Value) (entries : Entries) : Option Entries :=
  entries.changeAt false (fun _ inner => inner.addPair path key value) false header

end Entries

mutual

def Node.toValue : Node → Value
  | .value value => value
  | .table _ entries => .table (entryValues entries)
  | .tables last before => .array (tableValues before [.table (entryValues last)])

def entryValues : List (List Char × Node) → List (List Char × Value)
  | [] => []
  | (key, node) :: rest => (key, node.toValue) :: entryValues rest

/-- The tables of an array in front of the ones that follow. -/
def tableValues : List (List (List Char × Node)) → List Value → List Value
  | [], following => following
  | entries :: before, following => tableValues before (.table (entryValues entries) :: following)

end

end RuleLexer.Toml
