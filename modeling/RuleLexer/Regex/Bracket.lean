import RuleLexer.Regex.Escape

/-!
# Sets in brackets

The items of a set in brackets are joined from left to right, and so are the operands of its
operators, which all bind alike. Sets may stand in sets. The depth that a set has as a tree is kept
beside it.
-/
namespace RuleLexer.Regex

/-- The named ASCII classes. -/
def asciiClass? (name : String) : Option (List (Nat × Nat)) :=
  match name with
  | "alnum" => some [(0x30, 0x39), (0x41, 0x5A), (0x61, 0x7A)]
  | "alpha" => some [(0x41, 0x5A), (0x61, 0x7A)]
  | "ascii" => some [(0x00, 0x7F)]
  | "blank" => some [(0x09, 0x09), (0x20, 0x20)]
  | "cntrl" => some [(0x00, 0x1F), (0x7F, 0x7F)]
  | "digit" => some asciiDigit
  | "graph" => some [(0x21, 0x7E)]
  | "lower" => some [(0x61, 0x7A)]
  | "print" => some [(0x20, 0x7E)]
  | "punct" => some [(0x21, 0x2F), (0x3A, 0x40), (0x5B, 0x60), (0x7B, 0x7E)]
  | "space" => some asciiSpace
  | "upper" => some [(0x41, 0x5A)]
  | "word" => some asciiWord
  | "xdigit" => some [(0x30, 0x39), (0x41, 0x46), (0x61, 0x66)]
  | _ => none

/-- The name of a class and what follows the colon and the bracket after it. -/
def readAsciiName? (text : List Char) : Option (List (Nat × Nat) × List Char) := do
  let name := text.takeWhile (· != ':')
  let ':' :: ']' :: rest := text.drop name.length | none
  return (← asciiClass? (.ofList name), rest)

/-- A named class such as `[:alpha:]`, after its opening bracket; anything else is no such class. -/
def readAsciiClass? (text : List Char) : Option ((List (Nat × Nat) × Bool) × List Char) :=
  match text with
  | ':' :: '^' :: rest => (readAsciiName? rest).map fun (ranges, rest) => ((ranges, true), rest)
  | ':' :: rest => (readAsciiName? rest).map fun (ranges, rest) => ((ranges, false), rest)
  | _ => none

/-- A set with the depth that the text describing it has as a tree. -/
structure Nested (α : Type) where
  value : α
  depth : Nat

/-- The items read so far in one operand of a bracketed set. -/
structure Items where
  set : CharSet
  count : Nat
  deepest : Nat

def Items.none : Items := ⟨.empty, 0, 0⟩

def Items.add (items : Items) (set : CharSet) (depth : Nat) : Items :=
  ⟨items.set ∪ set, items.count + 1, max items.deepest depth⟩

/-- Two or more items form a union, which is one level deeper than its deepest item. -/
def Items.depth (items : Items) : Nat :=
  if items.count ≤ 1 then items.deepest else items.deepest + 1

/-- An operator between two operands of a bracketed set. -/
inductive SetOperator
  | intersection
  | difference
  | symmetricDifference

def SetOperator.apply (operator : SetOperator) (left right : CharSet) : CharSet :=
  match operator with
  | .intersection => left ∩ right
  | .difference => left.difference right
  | .symmetricDifference => left.symmetricDifference right

/-- Joins the operand just read with the one before the operator, if there is one. -/
def combine (flags : Flags) (earlier : Option (SetOperator × Nested CharSet)) (items : Items) :
    Except SourceError (Nested CharSet) := do
  match earlier with
  | none => return ⟨items.set, items.depth⟩
  | some (operator, left) =>
    let leftSet ← flags.finish false left.value
    let rightSet ← flags.finish false items.set
    return ⟨operator.apply leftSet rightSet, max left.depth items.depth + 1⟩

/-- What may come first in a bracketed set only: hyphens, or a closing bracket that is an item. -/
def readSetFirst (flags : Flags) (text : List Char) : Except SourceError (Items × List Char) := do
  let (hyphens, text) := readRun flags (· = '-') (text.length + 1) text
  let items := hyphens.foldl (fun items char => items.add (.single char) 0) .none
  match text with
  | [] => throw .classUnclosed
  | ']' :: rest =>
    if items.count = 0 then
      let rest := flags.skip rest
      if rest.isEmpty then throw .classUnclosed
      return (items.add (.single ']') 0, rest)
    else return (items, text)
  | _ => return (items, text)

/-- The beginning of a bracketed set: whether it is negated, and the items that come first. -/
def readSetStart (flags : Flags) (text : List Char) :
    Except SourceError ((Bool × Items) × List Char) := do
  match flags.skip text with
  | '^' :: rest =>
    let (items, rest) ← readSetFirst flags (flags.skip rest)
    return ((true, items), rest)
  | text =>
    let (items, rest) ← readSetFirst flags text
    return ((false, items), rest)

/-- One end of a range or a single item: a character or an escape. -/
def readSetAtom (flags : Flags) (text : List Char) : Except SourceError (Atom × List Char) :=
  match text with
  | [] => .error .classUnclosed
  | '\\' :: rest => readEscape flags rest
  | char :: rest => .ok (.char char false, rest)

/-- The value of a character in a set; without Unicode only ASCII has one. -/
def Flags.member (flags : Flags) (char : Char) (asByte : Bool) : Except SourceError Nat :=
  if flags.unicode || char.toNat ≤ 0x7F then .ok char.toNat
  else .error (if asByte then .notUtf8 else .unicodeRequired)

def Flags.item (flags : Flags) : Atom → Except SourceError CharSet
  | .char char asByte => do
    let value ← flags.member char asByte
    return .range value value
  | .look _ => .error .classEscape
  | .shorthand unicode ascii negated => flags.shorthand unicode ascii negated
  | .property set negated => flags.property set negated

/-- The characters between two ends, which must be in order. -/
def Flags.range (flags : Flags) (first last : Atom) : Except SourceError CharSet := do
  match first, last with
  | .char low lowByte, .char high highByte =>
    if high < low then throw .classRange
    return .range (← flags.member low lowByte) (← flags.member high highByte)
  | _, _ => throw .classRange

/-- An item of a bracketed set that is no set in brackets itself: a range or a single item. -/
def readSetItem (flags : Flags) (text : List Char) : Except SourceError (CharSet × List Char) := do
  let (first, rest) ← readSetAtom flags text
  match flags.skip rest with
  | [] => throw .classUnclosed
  | '-' :: more =>
    if flags.peek more = some ']' ∨ flags.peek more = some '-' then
      return (← flags.item first, '-' :: more)
    else
      let (last, rest) ← readSetAtom flags (flags.skip more)
      return (← flags.range first last, rest)
  | rest => return (← flags.item first, rest)

/-- What the reader of a bracketed set comes upon. -/
inductive SetTurn
  | close
  | item (set : CharSet)
  | operator (operator : SetOperator)
  /-- The beginning of a set in the set. -/
  | nested (negated : Bool) (items : Items)

/-- Reads on to the next item, operator or bracket. -/
def readSetTurn (flags : Flags) (text : List Char) : Except SourceError (SetTurn × List Char) := do
  match flags.skip text with
  | [] => throw .classUnclosed
  | '[' :: rest =>
    match readAsciiClass? rest with
    | some ((ranges, negated), rest) => return (.item (← flags.finish negated ⟨ranges⟩), rest)
    | none =>
      let ((negated, items), rest) ← readSetStart flags rest
      return (.nested negated items, rest)
  | ']' :: rest => return (.close, rest)
  | '&' :: '&' :: rest => return (.operator .intersection, rest)
  | '-' :: '-' :: rest => return (.operator .difference, rest)
  | '~' :: '~' :: rest => return (.operator .symmetricDifference, rest)
  | text =>
    let (set, rest) ← readSetItem flags text
    return (.item set, rest)

/-- The rest of a bracketed set, up to and with its closing bracket. -/
def readSet (flags : Flags) (negated : Bool) :
    Nat → Option (SetOperator × Nested CharSet) → Items → List Char →
      Except SourceError (Nested CharSet × List Char)
  | 0, _, _, _ => .error .classUnclosed
  | fuel + 1, earlier, items, text => do
    match ← readSetTurn flags text with
    | (.close, rest) =>
      let whole ← combine flags earlier items
      return (⟨← flags.finish negated whole.value, whole.depth⟩, rest)
    | (.item set, rest) => readSet flags negated fuel earlier (items.add set 0) rest
    | (.operator operator, rest) =>
      let left ← combine flags earlier items
      readSet flags negated fuel (some (operator, left)) .none rest
    | (.nested innerNegated innerItems, rest) =>
      let (inner, rest) ← readSet flags innerNegated fuel none innerItems rest
      readSet flags negated fuel earlier (items.add inner.value (inner.depth + 1)) rest

end RuleLexer.Regex
