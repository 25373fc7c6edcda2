import RuleLexer.Json.Value

/-!
# Writing JSON

A value is written without any blanks, or with one item or member on each line. Strings are written
with as few escapes as JSON allows. What cannot be used is never written by the library and is left
out of the grammar: it is written as `null`.
-/
namespace RuleLexer.Json

/-- Two hexadecimal digits. -/
def hexPair (value : Nat) : List Char :=
  [Nat.digitChar (value / 16), Nat.digitChar (value % 16)]

/-- A character in a string. -/
def writeChar (char : Char) : List Char :=
  match char with
  | '"' => ['\\', '"']
  | '\\' => ['\\', '\\']
  | '\x08' => ['\\', 'b']
  | '\x0c' => ['\\', 'f']
  | '\n' => ['\\', 'n']
  | '\r' => ['\\', 'r']
  | '\t' => ['\\', 't']
  | char => if char.toNat < 0x20 then ['\\', 'u', '0', '0'] ++ hexPair char.toNat else [char]

def writeString (text : List Char) : List Char := '"' :: text.flatMap writeChar ++ ['"']

def writeText : Text → List Char
  | .valid chars => writeString chars
  | .broken => "null".toList

def writeNumber : Number → List Char
  | .natural value => Nat.toDigits 10 value
  | .other | .tooLarge => "null".toList

/-- Where the parts of a value are written: on one line or on lines of their own. -/
inductive Layout
  | compact
  /-- Each part is on a line of its own, indented by two blanks for each level. -/
  | indented (level : Nat)
deriving DecidableEq, Repr

namespace Layout

def inner : Layout → Layout
  | compact => compact
  | indented level => indented (level + 1)

/-- What stands before a part. -/
def lineStart : Layout → List Char
  | compact => []
  | indented level => '\n' :: List.replicate (2 * level) ' '

def colon : Layout → List Char
  | compact => [':']
  | indented _ => [':', ' ']

/-- Parts between an opening and a closing sign. -/
def enclose (layout : Layout) (opening closing : Char) : List (List Char) → List Char
  | [] => [opening, closing]
  | first :: rest =>
    opening :: layout.inner.lineStart ++ first ++
      rest.flatMap (fun part => ',' :: layout.inner.lineStart ++ part) ++
      layout.lineStart ++ [closing]

end Layout

mutual

def writeWith (layout : Layout) : Value → List Char
  | .null => "null".toList
  | .bool true => "true".toList
  | .bool false => "false".toList
  | .number value => writeNumber value
  | .string value => writeText value
  | .array items => layout.enclose '[' ']' (writeItems layout.inner items)
  | .object members => layout.enclose '\x7b' '\x7d' (writeMembers layout.inner members)

def writeItems (layout : Layout) : List Value → List (List Char)
  | [] => []
  | item :: rest => writeWith layout item :: writeItems layout rest

def writeMembers (layout : Layout) : List (Text × Value) → List (List Char)
  | [] => []
  | (key, value) :: rest =>
    (writeText key ++ layout.colon ++ writeWith layout value) :: writeMembers layout rest

end

/-- A value on one line, without blanks. -/
def write (value : Value) : List Char := writeWith .compact value

/-- A value with its parts on lines of their own. -/
def writeIndented (value : Value) : List Char := writeWith (.indented 0) value

end RuleLexer.Json
