/-!
# Data

The data that documents of every format hold: nothing, a truth value, a number, a text, a list or a
map. Of the numbers only the natural ones of at most 64 bits can be told apart, because no other
number has a use in a table. A map keeps its pairs in the order of the document, repeated keys
included.

A document is read in two ways. Where its structure says what must stand at a place, the reader asks
the format for just that, and some formats are more lenient then: a number can be asked for as a
text. Where an entry may have one of several forms, the data at the place is read first as it is,
and the forms are then tried on it.
-/
namespace RuleLexer

/-- Data of a document, whatever its format. -/
inductive Datum
  | null
  | bool (value : Bool)
  | natural (value : Nat)
  /-- Another number. -/
  | number
  | string (value : String)
  | list (items : List Datum)
  | map (pairs : List (Datum × Datum))

namespace Datum

def ofStrings (values : List String) : Datum := .list (values.map .string)

/-- A map with texts as keys. -/
def ofMembers (members : List (String × Datum)) : Datum :=
  .map (members.map fun (key, value) => (.string key, value))

/-- The field that a key stands for: one of the names, or its number. A key that is neither stands
for no field. -/
def fieldName? (names : List String) : Datum → Option (Option String)
  | .string name => some (if name ∈ names then some name else none)
  | .natural index => some names[index]?
  | _ => none

/-- The only value among those with a name; no value is a value too. -/
def onlyValue? {α : Type} (members : List (Option String × α)) (name : String) :
    Option (Option α) :=
  match members.filter fun (key, _) => key = some name with
  | [] => some none
  | [(_, value)] => some (some value)
  | _ => none

/-- The values of the fields of a record, each of which may be missing. Fields that are not asked
for may stand beside them, but none of those that are may stand there twice. -/
def fields? (names : List String) : Datum → Option (List (Option Datum))
  | .map pairs => do
    let members ← pairs.mapM fun (key, value) =>
      (key.fieldName? names).map fun name => (name, value)
    names.mapM (onlyValue? members)
  | _ => none

def string? : Datum → Option String
  | .string value => some value
  | _ => none

def bool? : Datum → Option Bool
  | .bool value => some value
  | _ => none

def natural? : Datum → Option Nat
  | .natural value => some value
  | _ => none

/-- A value that may be left out by writing nothing. -/
def optional? {α : Type} (read : Datum → Option α) : Datum → Option (Option α)
  | .null => some none
  | value => (read value).map some

/-- The items of a list. -/
def listOf? {α : Type} (read : Datum → Option α) : Datum → Option (List α)
  | .list items => items.mapM read
  | _ => none

end Datum

/-- What can be asked of a piece of a document in some format. -/
class Element (ν : Type) where
  /-- The levels of collections that a document may have. -/
  levels : Nat
  /-- The text of a place that must hold one. -/
  text? : ν → Option String
  /-- The truth value of a place that must hold one. -/
  flag? : ν → Option Bool
  items? : ν → Option (List ν)
  /-- The values of a map by their keys. -/
  members? : ν → Option (List (String × ν))
  /-- The values of the fields of a record. -/
  fields? : List String → ν → Option (List (Option ν))
  /-- The data of a place, if it has at most a number of levels. -/
  datum? : Nat → ν → Option Datum

end RuleLexer
