import RuleLexer.Settings.Tree

/-!
# Paths of settings

A path names a place in a tree of settings: a key, and then further keys after dots and positions in
brackets. What stands in the way of a path is replaced, so that every place can be given a value.
-/
namespace RuleLexer

/-- A step from a place to a part of it. -/
inductive SettingStep
  | key (name : List Char)
  /-- A position in a list, from its end if it is negative. -/
  | position (index : Int)
deriving DecidableEq, Repr

/-- A key, and the steps from what stands under it. -/
structure SettingPath where
  root : List Char
  steps : List SettingStep
deriving DecidableEq, Repr

namespace SettingPath

def isNameChar (char : Char) : Bool :=
  char.isAlphanum || char = ' ' || char = '_' || char = '-' || char = ':'

/-- A name, which has at least one character. -/
def readName (text : List Char) : Option (List Char × List Char) :=
  let name := text.takeWhile isNameChar
  if name.isEmpty then none else some (name, text.dropWhile isNameChar)

/-- The signed number that a text of digits stands for, of at most 64 bits. -/
def signedOf? (negative : Bool) (digits : List Char) : Option Int := do
  let magnitude ← Number.ofDigits? 10 digits
  if negative then if magnitude ≤ Nat.pow 2 63 then return -magnitude else none
  else if magnitude < Nat.pow 2 63 then return magnitude else none

/-- A position, after its opening bracket. -/
def readPosition (text : List Char) : Option (Int × List Char) := do
  let text := text.dropWhile (· = ' ')
  let negative := text.head? = some '-'
  let text := if negative then text.tail else text
  let index ← signedOf? negative (text.takeWhile Char.isDigit)
  match (text.dropWhile Char.isDigit).dropWhile (· = ' ') with
  | ']' :: rest => return (index, rest)
  | _ => none

/-- The steps up to the end of a text. -/
def readSteps : Nat → List Char → Option (List SettingStep)
  | 0, _ => none
  | room + 1, text =>
    match text with
    | [] => some []
    | '.' :: rest => do
      let (name, rest) ← readName rest
      return .key name :: (← readSteps room rest)
    | '[' :: rest => do
      let (index, rest) ← readPosition rest
      return .position index :: (← readSteps room rest)
    | _ => none

def parse? (text : List Char) : Option SettingPath := do
  let (root, rest) ← readName text
  return ⟨root, ← readSteps (rest.length + 1) rest⟩

/-- The path that a key of a document stands for: a key that is no path is a name as it is. -/
def ofKey (key : List Char) : SettingPath := (parse? key).getD ⟨key, []⟩

end SettingPath

namespace SettingTree

/-- Puts a tree under a key, at the place of the key if it is there already. -/
def putEntry (key : List Char) (value : SettingTree) :
    List (List Char × SettingTree) → List (List Char × SettingTree)
  | [] => [(key, value)]
  | (other, old) :: rest =>
    if other = key then (key, value) :: rest else (other, old) :: putEntry key value rest

/-- The entries of a table, and none if it is something else. -/
def entries : SettingTree → List (List Char × SettingTree)
  | .table entries => entries
  | _ => []

/-- The items of a list, and none if it is something else. -/
def items : SettingTree → List SettingTree
  | .list items => items
  | _ => []

/-- Changes what stands under a key. -/
def changeKey (name : List Char) (change : SettingTree → SettingTree) (tree : SettingTree) :
    SettingTree :=
  let key := foldKey name
  .table (putEntry key (change ((tree.entries.lookup key).getD .nothing)) tree.entries)

/-- A list that has a position, and the position counted from its start. It grows at its end, and at
its start for a position before that. -/
def reach (index : Int) (items : List SettingTree) : List SettingTree × Nat :=
  match index with
  | .ofNat position =>
    (items ++ List.replicate (position + 1 - items.length) .nothing, position)
  | .negSucc distance =>
    let missing := distance + 1 - items.length
    (List.replicate missing .nothing ++ items, items.length + missing - (distance + 1))

/-- Changes what stands at a position. -/
def changePosition (index : Int) (change : SettingTree → SettingTree) (tree : SettingTree) :
    SettingTree :=
  let (items, position) := reach index tree.items
  .list (items.modify position change)

/-- Changes what stands at the end of some steps. -/
def changeAt (change : SettingTree → SettingTree) : List SettingStep → SettingTree → SettingTree
  | [], tree => change tree
  | .key name :: steps, tree => tree.changeKey name (changeAt change steps)
  | .position index :: steps, tree => tree.changePosition index (changeAt change steps)

mutual

/-- Lays a tree over another one. The entries of a table are laid over those with the same keys, and
everything else takes the place of what was there. -/
def layOver : SettingTree → SettingTree → SettingTree
  | .table entries, .nothing => layEntries entries (.table [])
  | .table entries, below => layEntries entries below
  | value, _ => value

/-- Lays entries over a tree one after the other. -/
def layEntries : List (List Char × SettingTree) → SettingTree → SettingTree
  | [], below => below
  | (key, value) :: rest, below => layEntries rest (below.changeKey key (layOver value))

end

/-- Gives the place of a path a value. -/
def put (tree : SettingTree) (path : SettingPath) (value : SettingTree) : SettingTree :=
  tree.changeAt (layOver value) (.key path.root :: path.steps)

end SettingTree

end RuleLexer
