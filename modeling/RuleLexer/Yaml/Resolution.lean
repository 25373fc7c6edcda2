import RuleLexer.Document.Datum
import RuleLexer.Number
import RuleLexer.Yaml.Node

/-!
# What the scalars of a YAML document mean

A plain scalar is nothing, a truth value or a number if it is written like one, and otherwise a
text. Digits after a leading zero are no number. A scalar with quotes is a text. A tag decides what
a scalar must be; a tag that is known to the document alone has no meaning here.
-/
namespace RuleLexer.Yaml

def isNull (text : List Char) : Bool :=
  [['~'], "null".toList, "Null".toList, "NULL".toList].contains text

def bool? (text : List Char) : Option Bool :=
  if ["true".toList, "True".toList, "TRUE".toList].contains text then some true
  else if ["false".toList, "False".toList, "FALSE".toList].contains text then some false
  else none

/-- A text without the sign that it begins with. -/
def dropSign : List Char → List Char
  | '+' :: rest => rest
  | '-' :: rest => rest
  | text => text

/-- Digits that a leading zero keeps from being a number. -/
def isZeroPadded (text : List Char) : Bool :=
  match dropSign text with
  | '0' :: digit :: rest => (digit :: rest).all Char.isDigit
  | _ => false

/-- The magnitude of an integer without a sign, which may be written in base sixteen, eight or two.
-/
def magnitude? : List Char → Option Nat
  | '0' :: 'x' :: rest => Number.ofDigits? 16 rest
  | '0' :: 'o' :: rest => Number.ofDigits? 8 rest
  | '0' :: 'b' :: rest => Number.ofDigits? 2 rest
  | text => if isZeroPadded text then none else Number.ofDigits? 10 text

/-- What an integer is read as. -/
inductive IntegerReading
  | natural (value : Nat)
  | negative
  /-- Between 64 and 128 bits. -/
  | wide

def integer? (text : List Char) : Option IntegerReading :=
  match text with
  | '-' :: rest => do
    let size ← magnitude? rest
    if size = 0 then return .natural 0
    if size ≤ Nat.pow 2 63 then return .negative
    if size ≤ Nat.pow 2 127 then return .wide
    none
  | _ => do
    let size ← magnitude? (if text.head? = some '+' then text.tail else text)
    if size < Nat.pow 2 64 then return .natural size
    if size < Nat.pow 2 128 then return .wide
    none

/-- The digits and the exponent of a decimal number without a sign. -/
def decimal? (text : List Char) : Option (Nat × Int) := do
  let whole := text.takeWhile Char.isDigit
  let rest := text.dropWhile Char.isDigit
  let (fraction, rest) := match rest with
    | '.' :: rest => (rest.takeWhile Char.isDigit, rest.dropWhile Char.isDigit)
    | rest => ([], rest)
  if whole.isEmpty ∧ fraction.isEmpty then none
  let digits ← Number.ofDigits? 10 (whole ++ fraction)
  match rest with
  | [] => return (digits, -fraction.length)
  | sign :: exponent =>
    if sign ≠ 'e' ∧ sign ≠ 'E' then none
    let size ← Number.ofDigits? 10 (dropSign exponent)
    let exponent : Int := if exponent.head? = some '-' then -size else size
    return (digits, exponent - fraction.length)

/-- Whether a text is a decimal number, or one of the names of infinity and of what is no number. -/
def isFloat (text : List Char) : Bool :=
  let unsigned := dropSign text
  let infinities := [".inf".toList, ".Inf".toList, ".INF".toList]
  infinities.contains unsigned ||
    [".nan".toList, ".NaN".toList, ".NAN".toList].contains text ||
    (decimal? unsigned).any fun (digits, exponent) => Number.isFinite digits exponent

/-- The data of a plain scalar without a tag. -/
def plainDatum? (text : List Char) : Option Datum :=
  if text.isEmpty || isNull text then some .null
  else match bool? text with
    | some value => some (.bool value)
    | none =>
      match integer? text with
      | some (.natural value) => some (.natural value)
      | some .negative => some .number
      | some .wide => none
      | none =>
        if !isZeroPadded text && isFloat text then some .number
        else some (.string (String.ofList text))

def tagName (kind : String) : List Char := "tag:yaml.org,2002:".toList ++ kind.toList

/-- Whether a tag is known to the document alone. -/
def isLocalTag (tag : Option (List Char)) : Bool := tag.any fun tag => tag.head? = some '!'

/-- The data of a scalar. -/
def scalarDatum? (tag : Option (List Char)) (style : ScalarStyle) (text : List Char) :
    Option Datum :=
  if isLocalTag tag then none
  else if tag = some (tagName "bool") then (bool? text).map .bool
  else if tag = some (tagName "int") then
    match integer? text with
    | some (.natural value) => some (.natural value)
    | some .negative => some .number
    | _ => none
  else if tag = some (tagName "float") then if isFloat text then some .number else none
  else if tag = some (tagName "null") then if isNull text then some .null else none
  else if tag.isNone ∧ style = .plain then plainDatum? text
  else some (.string (String.ofList text))

end RuleLexer.Yaml
