import RuleLexer.Number
import RuleLexer.Toml.Value

/-!
# Trees of settings

Settings are kept in tables under keys, in which the case of letters does not matter. A setting may
be given as any kind of plain value that has the right meaning: a natural number as a text of
digits, as another number, which is rounded, or as a truth value, and a truth value as one of its
names or as a number.
-/
namespace RuleLexer

/-- A tree of settings, in which each table lists a key once. -/
inductive SettingTree
  /-- Nothing, as in the places of a list that have not been filled. -/
  | nothing
  | bool (value : Bool)
  | integer (value : Int)
  | float (value : Number.Binary64)
  | text (chars : List Char)
  | list (items : List SettingTree)
  | table (entries : List (List Char × SettingTree))

namespace SettingTree

mutual

/-- The tree of a value in a document. -/
def ofToml : Toml.Value → SettingTree
  | .string chars => .text chars
  | .integer value => .integer value
  | .float value => .float value
  | .bool value => .bool value
  | .moment moment => .text moment.text
  | .array items => .list (ofItems items)
  | .table entries => .table (ofEntries entries)

def ofItems : List Toml.Value → List SettingTree
  | [] => []
  | item :: rest => ofToml item :: ofItems rest

def ofEntries : List (List Char × Toml.Value) → List (List Char × SettingTree)
  | [] => []
  | (key, value) :: rest => (key, ofToml value) :: ofEntries rest

end

/-- The small form of a letter of the alphabet. The sign for kelvin is a capital letter as well,
whose small form is `k`; no other character beyond the alphabet has its small form in the alphabet.
-/
def lowercase (char : Char) : Char := if char = '\u212A' then 'k' else char.toLower

/-- A key as it is kept. -/
def foldKey (key : List Char) : List Char := key.map lowercase

/-! ## Meanings -/

def trueNames : List (List Char) := [['o', 'n'], ['y', 'e', 's'], ['t', 'r', 'u', 'e']]

def falseNames : List (List Char) := [['o', 'f', 'f'], ['n', 'o'], ['f', 'a', 'l', 's', 'e']]

/-- The greatest natural number that a setting can have. -/
def naturalLimit : Nat := Nat.pow 2 64 - 1

/-- The truth value of a name. -/
def namedFlag? (chars : List Char) : Option Bool :=
  let name := chars.map lowercase
  if name ∈ trueNames then some true
  else if name ∈ falseNames then some false
  else none

/-- A natural number of digits, before which a plus sign may stand. -/
def writtenNatural? (chars : List Char) : Option Nat :=
  let digits := if chars.head? = some '+' then chars.tail else chars
  (Number.ofDigits? 10 digits).filter (· ≤ naturalLimit)

/-- The natural number that a setting means. -/
def natural? : SettingTree → Option Nat
  | .integer value => if 0 ≤ value then some value.toNat else none
  | .bool value => some value.toNat
  | .float value => some (value.nearestNatural naturalLimit)
  | .text chars => ((namedFlag? chars).map Bool.toNat) <|> writtenNatural? chars
  | _ => none

/-- The truth value that a setting means. -/
def flag? : SettingTree → Option Bool
  | .bool value => some value
  | .integer value => some (value ≠ 0)
  | .float value => some !value.isZero
  | .text chars =>
    if chars = ['1'] then some true
    else if chars = ['0'] then some false
    else namedFlag? chars
  | _ => none

def integerText (value : Int) : List Char :=
  if value < 0 then '-' :: Nat.toDigits 10 value.natAbs else Nat.toDigits 10 value.natAbs

def boolText (value : Bool) : List Char :=
  if value then ['t', 'r', 'u', 'e'] else ['f', 'a', 'l', 's', 'e']

/-- The text that a setting means. -/
def text? : SettingTree → Option (List Char)
  | .text chars => some chars
  | .bool value => some (boolText value)
  | .integer value => some (integerText value)
  | .float value => some value.text
  | _ => none

/-- The parts of a group of settings. A group is written as a table, or as a list of its parts in
the order of their names. -/
def parts? (names : List (List Char)) : SettingTree → Option (List (Option SettingTree))
  | .table entries => some (names.map fun name => entries.lookup name)
  | .list items => some (names.zipIdx.map fun (_, position) => items[position]?)
  | _ => none

end SettingTree

end RuleLexer
