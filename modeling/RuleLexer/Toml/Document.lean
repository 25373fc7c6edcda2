import RuleLexer.Toml.Literal
import RuleLexer.Toml.Table

/-!
# TOML documents

A document is a list of statements, each on a line of its own: a header, which names the table that
the following pairs belong to, or a pair of a dotted key and a value. Arrays may go over several
lines and hold comments; tables that are written as values may not.

The nesting of a text is followed by recursion on a bound for the number of its parts, which its
length gives. Besides, values are nested less than `nestingLimit` deep, and dotted keys have fewer
parts.
-/
namespace RuleLexer.Toml

def nestingLimit : Nat := 80

/-- A dotted key: its parts before the last one, and the last one. -/
structure Key where
  path : List (List Char)
  last : List Char

/-- A statement of a document. -/
inductive Statement
  | header (key : Key)
  /-- A further table of an array of tables. -/
  | furtherHeader (key : Key)
  | pair (key : Key) (value : Value)

/-! ## Lines -/

def dropComment : List Char → List Char
  | '#' :: rest => rest.dropWhile isPlain
  | text => text

/-- What follows the end of a line, before which blanks and a comment may stand. -/
def lineEnd? (text : List Char) : Option (List Char) :=
  match dropComment (dropBlanks text) with
  | [] => some []
  | text => afterBreak? text

/-- Passes blanks, comments and ends of lines, as between the parts of an array. A comment must come
to the end of its line. -/
def passArrayLines : Nat → List Char → Option (List Char)
  | 0, _ => none
  | room + 1, text =>
    match dropBlanks text with
    | '#' :: rest => (afterBreak? (rest.dropWhile isPlain)).bind (passArrayLines room)
    | text =>
      match afterBreak? text with
      | some rest => passArrayLines room rest
      | none => some text

/-! ## Keys -/

def isKeyChar (char : Char) : Bool := char.isAlphanum || char = '_' || char = '-'

/-- A part of a key. -/
def readKeyPart (text : List Char) : Option (List Char × List Char) :=
  match text with
  | '"' :: rest => readQuoted (rest.length + 1) rest
  | '\x27' :: rest => readVerbatim rest
  | text =>
    let part := text.takeWhile isKeyChar
    if part.isEmpty then none else some (part, text.dropWhile isKeyChar)

/-- The parts of a key. -/
def readKeyParts : Nat → List Char → Option (List (List Char) × List Char)
  | 0, _ => none
  | room + 1, text => do
    let (part, rest) ← readKeyPart (dropBlanks text)
    match dropBlanks rest with
    | '.' :: rest =>
      let (parts, rest) ← readKeyParts room rest
      return (part :: parts, rest)
    | rest => return ([part], rest)

def Key.ofParts? (parts : List (List Char)) : Option Key :=
  if parts.length < nestingLimit then parts.getLast?.map fun last => ⟨parts.dropLast, last⟩
  else none

def readKey (text : List Char) : Option (Key × List Char) := do
  let (parts, rest) ← readKeyParts (text.length + 1) text
  let key ← Key.ofParts? parts
  return (key, rest)

/-- The sign between a key and its value. -/
def afterEquals? : List Char → Option (List Char)
  | '=' :: rest => some (dropBlanks rest)
  | _ => none

/-! ## Values -/

/-- The table that is written as pairs between braces. -/
def tableOfPairs? (pairs : List (Key × Value)) : Option Value := do
  let entries ← pairs.foldlM (fun (entries : Entries) (key, value) =>
    entries.addPair key.path key.last value) []
  return .table (entryValues entries)

mutual

/-- A value, inside of which values may be nested so many levels deep. -/
def readValue : (room levels : Nat) → List Char → Option (Value × List Char)
  | 0, _, _ => none
  | room + 1, levels, text =>
    match text with
    | 't' :: 'r' :: 'u' :: 'e' :: rest => some (.bool true, rest)
    | 'f' :: 'a' :: 'l' :: 's' :: 'e' :: rest => some (.bool false, rest)
    | '[' :: rest =>
      match levels with
      | 0 => none
      | levels + 1 => (readItems room levels rest).map fun (items, rest) => (.array items, rest)
    | '\x7b' :: rest =>
      match levels with
      | 0 => none
      | levels + 1 =>
        match dropBlanks rest with
        | '\x7d' :: rest => some (.table [], rest)
        | rest => do
          let (pairs, rest) ← readPairs room levels rest
          let value ← tableOfPairs? pairs
          return (value, rest)
    | text =>
      if text.head? = some '"' ∨ text.head? = some '\x27' then
        (readString text).map fun (chars, rest) => (.string chars, rest)
      else readNumber text

/-- The items of an array, of which the last one may be followed by a comma, and what follows the
closing bracket. -/
def readItems : (room levels : Nat) → List Char → Option (List Value × List Char)
  | 0, _, _ => none
  | room + 1, levels, text => do
    match ← passArrayLines (text.length + 1) text with
    | ']' :: rest => return ([], rest)
    | text =>
      let (item, rest) ← readValue room levels text
      match ← passArrayLines (rest.length + 1) rest with
      | ',' :: rest =>
        let (items, rest) ← readItems room levels rest
        return (item :: items, rest)
      | ']' :: rest => return ([item], rest)
      | _ => none

/-- The pairs of a table between braces, of which there is at least one, and what follows the
closing brace. -/
def readPairs : (room levels : Nat) → List Char → Option (List (Key × Value) × List Char)
  | 0, _, _ => none
  | room + 1, levels, text => do
    let (key, rest) ← readKey text
    let (value, rest) ← readValue room levels (← afterEquals? rest)
    match dropBlanks rest with
    | ',' :: rest =>
      let (pairs, rest) ← readPairs room levels rest
      return ((key, value) :: pairs, rest)
    | '\x7d' :: rest => return ([(key, value)], rest)
    | _ => none

end

/-! ## Statements -/

/-- A header without its opening brackets. -/
def readHeader (text : List Char) : Option (Key × List Char) := do
  let (key, rest) ← readKey text
  match rest with
  | ']' :: rest => return (key, rest)
  | _ => none

def readStatement (text : List Char) : Option (Statement × List Char) :=
  match text with
  | '[' :: '[' :: rest => do
    let (key, rest) ← readHeader rest
    match rest with
    | ']' :: rest => return (.furtherHeader key, rest)
    | _ => none
  | '[' :: rest => (readHeader rest).map fun (key, rest) => (.header key, rest)
  | text => do
    let (key, rest) ← readKey text
    let rest ← afterEquals? rest
    let (value, rest) ← readValue (rest.length + 1) (nestingLimit - 1) rest
    return (.pair key value, rest)

/-- The statements of a text, and the empty lines between them. -/
def readStatements : Nat → List Char → Option (List Statement)
  | 0, _ => none
  | room + 1, text =>
    match dropBlanks text with
    | [] => some []
    | text =>
      match lineEnd? text with
      | some rest => readStatements room rest
      | none => do
        let (statement, rest) ← readStatement text
        let statements ← readStatements room (← lineEnd? rest)
        return statement :: statements

/-- The tables while the statements fill them, and the table that pairs go into. -/
structure Filling where
  entries : Entries
  header : List (List Char)

def Filling.add (filling : Filling) : Statement → Option Filling
  | .header key => do
    let entries ← filling.entries.addTable key.path key.last
    return ⟨entries, key.path ++ [key.last]⟩
  | .furtherHeader key => do
    let entries ← filling.entries.addToTables key.path key.last
    return ⟨entries, key.path ++ [key.last]⟩
  | .pair key value => do
    let entries ← filling.entries.addPairAt filling.header key.path key.last value
    return { filling with entries }

/-- A text without the mark that may stand at its start. -/
def dropMark : List Char → List Char
  | '\uFEFF' :: rest => rest
  | text => text

/-- The entries of a document. -/
def read (text : List Char) : Option (List (List Char × Value)) := do
  let text := dropMark text
  let statements ← readStatements (text.length + 1) text
  let filling ← statements.foldlM Filling.add ⟨[], []⟩
  return entryValues filling.entries

end RuleLexer.Toml
