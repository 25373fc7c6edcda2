import RuleLexer.Yaml.Scalar

/-!
# Tokens of a YAML document

The tokens of a document show its structure: where block collections begin and end, which follows
from the indentation, and which tokens are keys. A key without a sign of its own is known only by
the colon after it, so the tokenizer keeps the places where such a key may begin, one for each level
of brackets, and puts the key sign there when the colon comes. A key of this kind lies on one line
and is not longer than `keyLimit`.
-/
namespace RuleLexer.Yaml

inductive ScalarStyle
  | plain
  | quoted
  | literal
  | folded
deriving DecidableEq

inductive Token
  | version (major minor : Nat)
  | tagAlias (handle lead : List Char)
  | documentStart
  | documentEnd
  | blockSequence
  | blockMapping
  | blockEnd
  | sequenceOpen
  | sequenceClose
  | mappingOpen
  | mappingClose
  | blockEntry
  | flowEntry
  | key
  | value
  | alias (name : List Char)
  | anchor (name : List Char)
  | tag (handle suffix : List Char)
  | scalar (style : ScalarStyle) (text : List Char)
deriving DecidableEq

/-- A place where a key may begin. -/
structure KeyPlace where
  /-- The number of tokens before it. -/
  position : Nat
  index : Nat
  line : Nat
  column : Nat
  /-- The place is one where nothing but a key can stand. -/
  required : Bool

structure Tokenizer where
  cursor : Cursor
  /-- The latest token first. -/
  tokens : List Token
  count : Nat
  /-- The indentations of the block collections under way, the innermost first. -/
  indents : List Nat
  /-- The places where a key may begin, for the innermost brackets first. The last one lies outside
  of all brackets. -/
  keys : List (Option KeyPlace)
  keyAllowed : Bool

namespace Tokenizer

def keyLimit : Nat := 1024

def ofText (text : List Char) : Tokenizer := ⟨.ofText text, [], 0, [], [none], true⟩

def inFlow (state : Tokenizer) : Bool := state.keys.length > 1

def indent? (state : Tokenizer) : Option Nat := state.indents.head?

def push (state : Tokenizer) (token : Token) : Tokenizer :=
  { state with tokens := token :: state.tokens, count := state.count + 1 }

/-- Puts a token in after the first `position` tokens. -/
def insertAt (state : Tokenizer) (position : Nat) (token : Token) : Tokenizer :=
  let later := state.count - position
  { state with
    tokens := state.tokens.take later ++ token :: state.tokens.drop later
    count := state.count + 1 }

/-- Passes blanks, comments and line ends. Outside of brackets a line end lets a key begin, and a
tab may not stand where a key may begin. -/
def skipGap : Nat → Tokenizer → Tokenizer
  | 0, state => state
  | rounds + 1, state =>
    let tabs := state.inFlow || !state.keyAllowed
    let cursor := state.cursor.skipWhile fun char => char = ' ' || (tabs && char = '\t')
    let cursor := if cursor.peekIs '#' then cursor.skipWhile fun char => !isBreak char else cursor
    if cursor.breakAt 0 then
      skipGap rounds
        { state with cursor := cursor.skipBreak, keyAllowed := state.keyAllowed || !state.inFlow }
    else { state with cursor }

/-- Forgets the places whose key would be too long or not lie on one line. -/
def forgetStale (state : Tokenizer) : Option Tokenizer := do
  let keys ← state.keys.mapM fun
    | none => some none
    | some key =>
      if key.line < state.cursor.line || key.index + keyLimit < state.cursor.index then
        if key.required then none else some none
      else some (some key)
  return { state with keys }

/-- Ends the block collections that are indented further than a column. -/
def unrollTo (column : Option Nat) : List Nat → Tokenizer → Tokenizer
  | [], state => { state with indents := [] }
  | indent :: rest, state =>
    if column.all (· < indent) then unrollTo column rest (state.push .blockEnd)
    else { state with indents := indent :: rest }

/-- Ends block collections, unless brackets are open. -/
def unroll (state : Tokenizer) (column : Option Nat) : Tokenizer :=
  if state.inFlow then state else unrollTo column state.indents state

/-- Begins a block collection at a column if it is indented further than the one around it. -/
def roll (state : Tokenizer) (column : Nat) (position : Nat) (token : Token) : Tokenizer :=
  if !state.inFlow && state.indent?.all (· < column) then
    { state.insertAt position token with indents := column :: state.indents }
  else state

/-- Forgets the place where a key may begin inside the innermost brackets. -/
def forgetKey (state : Tokenizer) : Option Tokenizer :=
  match state.keys with
  | some key :: rest => if key.required then none else some { state with keys := none :: rest }
  | _ => some state

/-- Notes that a key may begin here. -/
def noteKey (state : Tokenizer) : Option Tokenizer := do
  if !state.keyAllowed then return state
  let state ← state.forgetKey
  let cursor := state.cursor
  let key : KeyPlace := {
    position := state.count, index := cursor.index, line := cursor.line, column := cursor.column
    required := !state.inFlow && state.indent? = some cursor.column }
  return { state with keys := some key :: state.keys.drop 1 }

/-- Puts out a token of a number of characters. -/
def emit (state : Tokenizer) (size : Nat) (token : Token) (keyAllowed : Bool) : Tokenizer :=
  { state.push token with cursor := state.cursor.skipMany size, keyAllowed }

/-- A mark between documents. -/
def readDocumentMark (state : Tokenizer) (token : Token) : Option Tokenizer := do
  let state ← (state.unroll none).forgetKey
  return state.emit 3 token false

/-- An opening bracket or brace. -/
def readOpening (state : Tokenizer) (token : Token) : Option Tokenizer := do
  let state ← state.noteKey
  return { state with keys := none :: state.keys }.emit 1 token true

/-- A closing bracket or brace. -/
def readClosing (state : Tokenizer) (token : Token) : Option Tokenizer := do
  let state ← state.forgetKey
  let keys := if state.inFlow then state.keys.drop 1 else state.keys
  return { state with keys }.emit 1 token false

def readFlowEntry (state : Tokenizer) : Option Tokenizer := do
  return (← state.forgetKey).emit 1 .flowEntry true

def readBlockEntry (state : Tokenizer) : Option Tokenizer := do
  if !state.inFlow && !state.keyAllowed then none
  let state ← (state.roll state.cursor.column state.count .blockSequence).forgetKey
  return state.emit 1 .blockEntry true

def readKeySign (state : Tokenizer) : Option Tokenizer := do
  if !state.inFlow && !state.keyAllowed then none
  let state ← (state.roll state.cursor.column state.count .blockMapping).forgetKey
  return state.emit 1 .key (!state.inFlow)

/-- A colon. If a key may have begun before it, the sign of the key is put there. -/
def readColon (state : Tokenizer) : Option Tokenizer :=
  match state.keys with
  | some key :: rest =>
    let state := (state.insertAt key.position .key).roll key.column key.position .blockMapping
    some ({ state with keys := none :: rest }.emit 1 .value false)
  | _ =>
    if !state.inFlow && !state.keyAllowed then none
    else
      let state := state.roll state.cursor.column state.count .blockMapping
      some (state.emit 1 .value (!state.inFlow))

/-- The name of an anchor, which a gap or one of some signs must follow. -/
def readAnchor (state : Tokenizer) (token : List Char → Token) : Option Tokenizer := do
  let state ← state.noteKey
  let name := state.cursor.rest.tail.takeWhile isWordChar
  let state := state.emit (name.length + 1) (token name) false
  let next := state.cursor.peek?
  if name.isEmpty then none
  if !state.cursor.gapAt 0 && !next.any fun char => char ∈ "?:,]\x7d%@`".toList then none
  return state

/-- Whether a character can stand in a tag. -/
def isTagChar (verbatim : Bool) (char : Char) : Bool :=
  isWordChar char || char ∈ ";/?:@&=+$.%!~*'()".toList || (verbatim && char ∈ ",[]".toList)

/-- The number of bytes of a character in UTF-8 whose first byte is given. -/
def leadSize? (byte : Nat) : Option Nat :=
  if byte < 0x80 then some 1
  else if 0xC0 ≤ byte ∧ byte < 0xE0 then some 2
  else if 0xE0 ≤ byte ∧ byte < 0xF0 then some 3
  else if 0xF0 ≤ byte ∧ byte < 0xF8 then some 4
  else none

/-- Some bytes that are written as a percent sign and two hexadecimal digits each. -/
def readEscapedBytes : Nat → List Char → Option (List Nat × List Char)
  | 0, rest => some ([], rest)
  | count + 1, '%' :: high :: low :: rest => do
    let byte ← Number.ofDigits? 16 [high, low]
    let (bytes, rest) ← readEscapedBytes count rest
    return (byte :: bytes, rest)
  | _ + 1, _ => none

/-- A character whose bytes are escaped. -/
def readEscapedChar (text : List Char) : Option (Char × List Char) := do
  let (first, _) ← readEscapedBytes 1 text
  let size ← leadSize? (first.headD 0)
  let (bytes, rest) ← readEscapedBytes size text
  if bytes.tail.any fun byte => byte < 0x80 || 0xC0 ≤ byte then none
  let lead := if size = 1 then bytes.headD 0 else bytes.headD 0 % Nat.pow 2 (7 - size)
  let char ← charOfNumber? (bytes.tail.foldl (fun value byte => value * 64 + byte % 64) lead)
  return (char, rest)

/-- The characters of a tag from a place on. -/
def readTagChars (verbatim : Bool) : Nat → List Char → Option (List Char × List Char)
  | 0, _ => none
  | rounds + 1, text =>
    match text with
    | '%' :: _ => do
      let (char, rest) ← readEscapedChar text
      let (chars, rest) ← readTagChars verbatim rounds rest
      return (char :: chars, rest)
    | char :: rest =>
      if isTagChar verbatim char then do
        let (chars, rest) ← readTagChars verbatim rounds rest
        return (char :: chars, rest)
      else some ([], text)
    | [] => some ([], [])

/-- The handle and the rest of a tag, and what follows them. -/
def readTagParts (text : List Char) : Option (List Char × List Char × List Char) := do
  let rounds := text.length + 1
  match text with
  | '!' :: '<' :: rest =>
    let (chars, rest) ← readTagChars true rounds rest
    if chars.isEmpty then none
    match rest with
    | '>' :: rest => return ([], chars, rest)
    | _ => none
  | _ =>
    let word := text.tail.takeWhile isWordChar
    let rest := text.tail.dropWhile isWordChar
    if rest.head? = some '!' then
      let (chars, rest) ← readTagChars false rounds rest.tail
      if chars.isEmpty then none
      return ('!' :: word ++ ['!'], chars, rest)
    let (chars, rest) ← readTagChars false rounds rest
    let whole := word ++ chars
    return if whole.isEmpty then ([], ['!'], rest) else (['!'], whole, rest)

def readTag (state : Tokenizer) : Option Tokenizer := do
  let state ← state.noteKey
  let (handle, suffix, rest) ← readTagParts state.cursor.rest
  let state := state.emit (state.cursor.rest.length - rest.length) (.tag handle suffix) false
  if state.cursor.gapAt 0 || (state.inFlow && state.cursor.peekIs ',') then return state
  none

def readBlockScalar (state : Tokenizer) (style : ScalarStyle) : Option Tokenizer := do
  let state ← state.forgetKey
  let (text, cursor) ← readBlock (style = .literal) state.indent? state.cursor.skip
  return { state.push (.scalar style text) with cursor, keyAllowed := true }

def readQuotedScalar (state : Tokenizer) (single : Bool) : Option Tokenizer := do
  let state ← state.noteKey
  let cursor := state.cursor.skip
  let (text, cursor) ← readQuoted single (cursor.rest.length + 1) [] cursor
  return { state.push (.scalar .quoted text) with cursor, keyAllowed := false }

def readPlainScalar (state : Tokenizer) : Option Tokenizer := do
  let state ← state.noteKey
  let (text, hasBreak, cursor) ←
    readPlain state.inFlow (state.indent?.elim 0 (· + 1)) (state.cursor.rest.length + 1) .none []
      state.cursor
  return { state.push (.scalar .plain text) with cursor, keyAllowed := hasBreak }

def readNumber (cursor : Cursor) : Option (Nat × Cursor) :=
  let digits := cursor.rest.takeWhile Char.isDigit
  if digits.isEmpty ∨ digits.length > 9 then none
  else
    some (digits.foldl (fun value digit => value * 10 + (digit.toNat - '0'.toNat)) 0,
      cursor.skipMany digits.length)

def readVersion (cursor : Cursor) : Option (Token × Cursor) := do
  let (major, cursor) ← readNumber (cursor.skipWhile isBlank)
  if !cursor.peekIs '.' then none
  let (minor, cursor) ← readNumber cursor.skip
  return (.version major minor, cursor)

def readTagAlias (cursor : Cursor) : Option (Token × Cursor) := do
  let cursor := cursor.skipWhile isBlank
  if !cursor.peekIs '!' then none
  let word := cursor.rest.tail.takeWhile isWordChar
  let closed := cursor.rest.tail[word.length]? = some '!'
  if !closed ∧ !word.isEmpty then none
  let handle := '!' :: word ++ if closed then ['!'] else []
  let cursor := cursor.skipMany handle.length
  if !cursor.blankAt 0 then none
  let cursor := cursor.skipWhile isBlank
  let (lead, rest) ← readTagChars true (cursor.rest.length + 1) cursor.rest
  if lead.isEmpty then none
  let cursor := cursor.skipMany (cursor.rest.length - rest.length)
  if !cursor.gapAt 0 then none
  return (.tagAlias handle lead, cursor)

def readDirective (state : Tokenizer) : Option Tokenizer := do
  let state ← (state.unroll none).forgetKey
  let cursor := state.cursor.skip
  let name := cursor.rest.takeWhile isWordChar
  let cursor := cursor.skipMany name.length
  if !cursor.gapAt 0 then none
  let (token, cursor) ←
    if name = "YAML".toList then readVersion cursor
    else if name = "TAG".toList then readTagAlias cursor
    else none
  let cursor ← skipLineRest cursor
  return { state.push token with cursor, keyAllowed := false }

/-- Whether a plain scalar can begin at a place. -/
def plainStarts (state : Tokenizer) (char : Char) : Bool :=
  !isBlank char &&
    (char ∉ "-?:,[]\x7b\x7d#&*!|>'\"%@`".toList || (char = '-' && !state.cursor.blankAt 1) ||
      (!state.inFlow && (char = '?' || char = ':') && !state.cursor.gapAt 1))

/-- Reads the token at a place that is no gap. -/
def readToken (state : Tokenizer) (char : Char) : Option Tokenizer :=
  let cursor := state.cursor
  if cursor.column = 0 ∧ char = '%' then state.readDirective
  else if cursor.atDocumentMark then
    state.readDocumentMark (if char = '-' then .documentStart else .documentEnd)
  else
    match char with
    | '[' => state.readOpening .sequenceOpen
    | '\x7b' => state.readOpening .mappingOpen
    | ']' => state.readClosing .sequenceClose
    | '\x7d' => state.readClosing .mappingClose
    | ',' => state.readFlowEntry
    | '*' => state.readAnchor .alias
    | '&' => state.readAnchor .anchor
    | '!' => state.readTag
    | '\x27' => state.readQuotedScalar true
    | '"' => state.readQuotedScalar false
    | char =>
      if char = '-' ∧ cursor.gapAt 1 then state.readBlockEntry
      else if char = '?' ∧ (state.inFlow ∨ cursor.gapAt 1) then state.readKeySign
      else if char = ':' ∧ (state.inFlow ∨ cursor.gapAt 1) then state.readColon
      else if char = '|' ∧ !state.inFlow then state.readBlockScalar .literal
      else if char = '>' ∧ !state.inFlow then state.readBlockScalar .folded
      else if state.plainStarts char then state.readPlainScalar
      else none

/-- Ends what is under way at the end of the text. -/
def finish (state : Tokenizer) : Option Tokenizer := (state.unroll none).forgetKey

/-- Reads tokens up to the end of the text. -/
def run : Nat → Tokenizer → Option Tokenizer
  | 0, _ => none
  | rounds + 1, state => do
    let state ← (state.skipGap (state.cursor.rest.length + 1)).forgetStale
    let state := state.unroll (some state.cursor.column)
    match state.cursor.peek? with
    | none => state.finish
    | some char =>
      let state ← state.readToken char
      run rounds state

end Tokenizer

/-- The tokens of a text. A mark of the byte order at its beginning is passed over. -/
def Token.ofText? (text : List Char) : Option (List Token) := do
  let text := if text.head? = some '\uFEFF' then text.tail else text
  if !text.all isAllowed then none
  let state ← (Tokenizer.ofText text).run (text.length + 1)
  return state.tokens.reverse

end RuleLexer.Yaml
