import RuleLexer.Json.Value
import RuleLexer.Number

/-!
# Reading JSON

A text is read by the strict grammar: no comments, no trailing commas, no other blanks than the four
of JSON, and nothing but blanks around the value. Every reader takes the text that is left and gives
back what follows the part that it has read.

The nesting of the text is followed by recursion on a bound for the number of its values, which its
length gives.
-/
namespace RuleLexer.Json

def isBlank (char : Char) : Bool :=
  char = ' ' || char = '\n' || char = '\t' || char = '\r'

def dropBlanks (text : List Char) : List Char := text.dropWhile isBlank

/-- What a character stands for after a backslash. -/
def shortEscape? : Char → Option Char
  | '"' => some '"'
  | '\\' => some '\\'
  | '/' => some '/'
  | 'b' => some '\x08'
  | 'f' => some '\x0c'
  | 'n' => some '\n'
  | 'r' => some '\r'
  | 't' => some '\t'
  | _ => none

def Text.cons (char : Char) : Text → Text
  | valid chars => valid (char :: chars)
  | broken => broken

/-- A piece of a string. -/
inductive Unit16
  | char (char : Char)
  | high (value : Nat)
  | low (value : Nat)

/-- The pieces of a string up to its closing quote. -/
def readUnits : List Char → Option (List Unit16 × List Char)
  | '"' :: rest => some ([], rest)
  | '\\' :: 'u' :: first :: second :: third :: fourth :: rest => do
    let value ← RuleLexer.Number.ofDigits? 16 [first, second, third, fourth]
    let unit := if 0xD800 ≤ value ∧ value < 0xDC00 then .high value
      else if 0xDC00 ≤ value ∧ value < 0xE000 then .low value
      else .char (Char.ofNat value)
    let (units, rest) ← readUnits rest
    return (unit :: units, rest)
  | '\\' :: char :: rest => do
    let char ← shortEscape? char
    let (units, rest) ← readUnits rest
    return (.char char :: units, rest)
  | char :: rest =>
    if char = '\\' ∨ char.toNat < 0x20 then none
    else do
      let (units, rest) ← readUnits rest
      return (.char char :: units, rest)
  | [] => none

/-- Joins the halves of surrogate pairs. -/
def joinPairs : List Unit16 → Text
  | [] => .valid []
  | .char char :: rest => (joinPairs rest).cons char
  | .high high :: .low low :: rest =>
    (joinPairs rest).cons (Char.ofNat (0x10000 + (high - 0xD800) * 0x400 + (low - 0xDC00)))
  | .high _ :: _ | .low _ :: _ => .broken

/-- A string, after its opening quote. -/
def readString (text : List Char) : Option (Text × List Char) :=
  (readUnits text).map fun (units, rest) => (joinPairs units, rest)

def isDigit (char : Char) : Bool := '0' ≤ char && char ≤ '9'

/-- The value of digits, which is nought if there are none. -/
def digitsValue (digits : List Char) : Nat := (RuleLexer.Number.ofDigits? 10 digits).getD 0

/-- The digits of a fraction, which are empty if there is none. -/
def readFraction : List Char → Option (List Char × List Char)
  | '.' :: rest =>
    let digits := rest.takeWhile isDigit
    if digits.isEmpty then none else some (digits, rest.dropWhile isDigit)
  | text => some ([], text)

/-- An exponent after its letter. -/
def readSignedExponent (negative : Bool) (text : List Char) : Option (Option Int × List Char) :=
  let digits := text.takeWhile isDigit
  if digits.isEmpty then none
  else
    let value : Int := digitsValue digits
    some (some (if negative then -value else value), text.dropWhile isDigit)

/-- An exponent, if there is one. -/
def readExponent : List Char → Option (Option Int × List Char)
  | char :: rest =>
    if char = 'e' ∨ char = 'E' then
      match rest with
      | '+' :: rest => readSignedExponent false rest
      | '-' :: rest => readSignedExponent true rest
      | rest => readSignedExponent false rest
    else some (none, char :: rest)
  | [] => some (none, [])

/-- The number with a sign, an integer part, a fraction and an exponent. -/
def numberOf (negative : Bool) (integer fraction : List Char) (exponent : Option Int) : Number :=
  let value := digitsValue integer
  if !negative ∧ fraction.isEmpty ∧ exponent.isNone ∧ value ≤ maxNatural then .natural value
  else if RuleLexer.Number.isFinite (digitsValue (integer ++ fraction))
      (exponent.getD 0 - fraction.length) then .other
  else .tooLarge

/-- A number after its sign. -/
def readUnsigned (negative : Bool) (text : List Char) : Option (Number × List Char) := do
  let integer := text.takeWhile isDigit
  if integer.isEmpty ∨ (integer.head? = some '0' ∧ integer.length > 1) then none
  let (fraction, rest) ← readFraction (text.dropWhile isDigit)
  let (exponent, rest) ← readExponent rest
  return (numberOf negative integer fraction exponent, rest)

def readNumber : List Char → Option (Number × List Char)
  | '-' :: rest => readUnsigned true rest
  | text => readUnsigned false text

mutual

/-- A value, and what follows it. -/
def readValue : Nat → List Char → Option (Value × List Char)
  | 0, _ => none
  | room + 1, text =>
    match dropBlanks text with
    | 'n' :: 'u' :: 'l' :: 'l' :: rest => some (.null, rest)
    | 't' :: 'r' :: 'u' :: 'e' :: rest => some (.bool true, rest)
    | 'f' :: 'a' :: 'l' :: 's' :: 'e' :: rest => some (.bool false, rest)
    | '"' :: rest => (readString rest).map fun (text, rest) => (.string text, rest)
    | '[' :: rest =>
      match dropBlanks rest with
      | ']' :: rest => some (.array [], rest)
      | rest => (readItems room rest).map fun (items, rest) => (.array items, rest)
    | '\x7b' :: rest =>
      match dropBlanks rest with
      | '\x7d' :: rest => some (.object [], rest)
      | rest => (readMembers room rest).map fun (members, rest) => (.object members, rest)
    | rest => (readNumber rest).map fun (number, rest) => (.number number, rest)

/-- The items of an array that is not empty, and what follows its closing bracket. -/
def readItems : Nat → List Char → Option (List Value × List Char)
  | 0, _ => none
  | room + 1, text => do
    let (item, rest) ← readValue room text
    match dropBlanks rest with
    | ',' :: rest =>
      let (items, rest) ← readItems room rest
      return (item :: items, rest)
    | ']' :: rest => return ([item], rest)
    | _ => none

/-- The members of an object that is not empty, and what follows its closing brace. -/
def readMembers : Nat → List Char → Option (List (Text × Value) × List Char)
  | 0, _ => none
  | room + 1, text =>
    match dropBlanks text with
    | '"' :: rest => do
      let (key, rest) ← readString rest
      match dropBlanks rest with
      | ':' :: rest => do
        let (value, rest) ← readValue room rest
        match dropBlanks rest with
        | ',' :: rest =>
          let (members, rest) ← readMembers room rest
          return ((key, value) :: members, rest)
        | '\x7d' :: rest => return ([(key, value)], rest)
        | _ => none
      | _ => none
    | _ => none

end

/-- The value of a text. -/
def read (text : List Char) : Option Value :=
  match readValue (text.length + 1) text with
  | some (value, rest) => if (dropBlanks rest).isEmpty then some value else none
  | none => none

end RuleLexer.Json
