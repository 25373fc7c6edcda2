import RuleLexer.Document.Datum
import RuleLexer.Yaml.Resolution

/-!
# Documents in YAML

Where a text must stand every scalar is one, as it is written. Where a list or a map must stand, a
scalar that is left out is an empty one. A reference stands for its anchored node, which may contain
the reference itself: the bound on the levels of a document ends the reading then.
-/
namespace RuleLexer.Yaml

/-- A node together with the anchored nodes of its document. -/
structure Place where
  anchored : List (Nat × Node)
  node : Node

namespace Place

def ofNode (place : Place) (node : Node) : Place := { place with node }

/-- The node that a reference stands for. -/
def follow? (anchored : List (Nat × Node)) : Node → Option Node
  | .reference anchor => anchored.lookup anchor
  | node => some node

/-- The data of a node with at most a number of levels of collections. -/
def datum? (anchored : List (Nat × Node)) : Nat → Node → Option Datum
  | room, node =>
    match follow? anchored node, room with
    | some (.scalar tag style text), _ => scalarDatum? tag style text
    | some (.sequence tag items), room + 1 =>
      if isLocalTag tag then none else (items.mapM (datum? anchored room)).map .list
    | some (.mapping tag pairs), room + 1 =>
      if isLocalTag tag then none
      else
        (pairs.mapM fun (key, value) => do
          let key ← datum? anchored room key
          let value ← datum? anchored room value
          return (key, value)).map .map
    | _, _ => none

def text? (place : Place) : Option String :=
  match follow? place.anchored place.node with
  | some (.scalar _ _ text) => some (String.ofList text)
  | _ => none

def flag? (place : Place) : Option Bool :=
  match follow? place.anchored place.node with
  | some (.scalar _ .plain text) => bool? text
  | some (.scalar tag .literal text) => if tag = some (tagName "bool") then bool? text else none
  | _ => none

def items? (place : Place) : Option (List Place) :=
  match follow? place.anchored place.node with
  | some (.sequence _ items) => some (items.map place.ofNode)
  | some (.scalar _ .plain []) => some []
  | _ => none

def members? (place : Place) : Option (List (String × Place)) :=
  match follow? place.anchored place.node with
  | some (.mapping _ pairs) => pairs.mapM fun (key, value) =>
      (place.ofNode key).text?.map fun key => (key, place.ofNode value)
  | some (.scalar _ .plain []) => some []
  | _ => none

def fields? (names : List String) (place : Place) : Option (List (Option Place)) := do
  let members ← place.members?
  names.mapM (Datum.onlyValue? (members.map fun (key, value) => (some key, value)))

end Place

instance : Element Place where
  levels := 128
  text? := Place.text?
  flag? := Place.flag?
  items? := Place.items?
  members? := Place.members?
  fields? := Place.fields?
  datum? room place := Place.datum? place.anchored room place.node

/-- The place of a whole document. -/
def Document.place (document : Document) : Place := ⟨document.anchored, document.root⟩

end RuleLexer.Yaml
