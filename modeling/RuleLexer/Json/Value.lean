/-!
# JSON values

A value is kept with just what its uses can tell apart. Numbers are natural numbers of at most 64
bits or else just numbers, and what cannot be used at all is kept as well, because it does no harm
where a value is passed over: a number that is too large, and a text with half of a surrogate pair.

A record with named fields is written as an object, or as an array of the fields in their order. An
object may hold other members as well unless the record is closed, but no field twice.
-/
namespace RuleLexer.Json

/-- A text, or a text with half of a surrogate pair. -/
inductive Text
  | valid (chars : List Char)
  | broken
deriving DecidableEq, Repr

inductive Number
  /-- At most `maxNatural`. -/
  | natural (value : Nat)
  /-- A negative number or one with a fraction or an exponent. -/
  | other
  | tooLarge
deriving DecidableEq, Repr

/-- A value of a document. -/
inductive Value
  | null
  | bool (value : Bool)
  | number (value : Number)
  | string (value : Text)
  | array (items : List Value)
  | object (members : List (Text × Value))

/-- The greatest natural number of 64 bits. -/
def maxNatural : Nat := Nat.pow 2 64 - 1

namespace Value

def ofNat (value : Nat) : Value := .number (.natural value)

def ofString (value : String) : Value := .string (.valid value.toList)

def ofChars (value : List Char) : Value := .string (.valid value)

/-- An object with the members in the order given. -/
def ofMembers (members : List (String × Value)) : Value :=
  .object (members.map fun (key, value) => (.valid key.toList, value))

end Value

/-! ## Records -/

/-- The values of some keys, where a key may be given at most once. -/
def memberOnce? (members : List (Text × Value)) (name : String) : Option (Option Value) :=
  match members.filter fun (key, _) => key = .valid name.toList with
  | [] => some none
  | [(_, value)] => some (some value)
  | _ => none

/-- The values of the fields of a record, each of which may be missing. -/
def Value.fields? (names : List String) (closed : Bool) : Value → Option (List (Option Value))
  | .object members =>
    let known := names.map fun name => Text.valid name.toList
    if members.any fun (key, _) => key = .broken || (closed && key ∉ known) then none
    else names.mapM (memberOnce? members)
  | .array items =>
    if items.length ≤ names.length then
      some (items.map some ++ List.replicate (names.length - items.length) none)
    else none
  | _ => none

end RuleLexer.Json
