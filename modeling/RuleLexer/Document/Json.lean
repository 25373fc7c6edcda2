import RuleLexer.Document.Datum
import RuleLexer.Json.Value
import RuleLexer.Json.Writer

/-!
# Documents in JSON

Every value stands for itself: a text is asked for and found only as a string. A record may be
written as an array of its fields.
-/
namespace RuleLexer.Json

def Text.string? : Text → Option String
  | .valid chars => some (String.ofList chars)
  | .broken => none

mutual

/-- The data of a value with at most `room` levels of collections. -/
def Value.datum? (room : Nat) : Value → Option Datum
  | .null => some .null
  | .bool value => some (.bool value)
  | .number (.natural value) => some (.natural value)
  | .number .other => some .number
  | .number .tooLarge => none
  | .string text => text.string?.map .string
  | .array items => if room = 0 then none else (datumItems? (room - 1) items).map .list
  | .object members => if room = 0 then none else (datumPairs? (room - 1) members).map .map

def datumItems? (room : Nat) : List Value → Option (List Datum)
  | [] => some []
  | item :: rest => do
    let item ← Value.datum? room item
    let rest ← datumItems? room rest
    return item :: rest

def datumPairs? (room : Nat) : List (Text × Value) → Option (List (Datum × Datum))
  | [] => some []
  | (key, value) :: rest => do
    let key ← key.string?
    let value ← Value.datum? room value
    let rest ← datumPairs? room rest
    return (.string key, value) :: rest

end

instance : Element Value where
  levels := 127
  text?
    | .string text => text.string?
    | _ => none
  flag?
    | .bool value => some value
    | _ => none
  items?
    | .array items => some items
    | _ => none
  members?
    | .object members => members.mapM fun (key, value) => key.string?.map fun key => (key, value)
    | _ => none
  fields? names value := value.fields? names false
  datum? := Value.datum?

/-- A key as it is written in an object; only texts can be keys. -/
def keyText : Datum → Text
  | .string key => .valid key.toList
  | _ => .broken

mutual

/-- The value that data is written as. -/
def Value.ofDatum : Datum → Value
  | .null => .null
  | .bool value => .bool value
  | .natural value => .ofNat value
  | .number => .number .other
  | .string value => .ofString value
  | .list items => .array (ofDatumItems items)
  | .map pairs => .object (ofDatumPairs pairs)

def ofDatumItems : List Datum → List Value
  | [] => []
  | item :: rest => Value.ofDatum item :: ofDatumItems rest

def ofDatumPairs : List (Datum × Datum) → List (Text × Value)
  | [] => []
  | (key, value) :: rest => (keyText key, Value.ofDatum value) :: ofDatumPairs rest

end

/-- Writes data without any blanks. -/
def writeDatum (datum : Datum) : String := String.ofList (write (Value.ofDatum datum))

end RuleLexer.Json
