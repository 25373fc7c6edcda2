import RuleLexer.Number
import RuleLexer.Yaml.Cursor

/-!
# Scalars in a YAML document

Each style of scalar has its own rules for what the lines of the document contribute to its text.
Plain and quoted scalars fold lines: a single line end becomes a space, and of several line ends the
first one is dropped. Block scalars keep the lines, or fold those that do not begin with a blank,
and lose the indentation that their first line has.

Every reader takes a bound for its number of rounds, which the length of the document gives, and
fails if the text is no scalar of its style.
-/
namespace RuleLexer.Yaml

/-- What stands between two words of a folded scalar: blanks, or line ends and what follows them. -/
structure Gap where
  blanks : List Char
  hasBreak : Bool
  first : List Char
  further : List Char

namespace Gap

def none : Gap := ⟨[], false, [], []⟩

/-- The text that a gap folds to. -/
def text (gap : Gap) : List Char :=
  if gap.hasBreak then
    if gap.first = ['\n'] then
      if gap.further.isEmpty then [' '] else gap.further
    else gap.first ++ gap.further
  else gap.blanks

/-- Adds blanks and line ends at a place to a gap. With a limit, a tab may not stand left of that
column after a line end. -/
def read (tabLimit : Option Nat) : Nat → Gap → Cursor → Option (Gap × Cursor)
  | 0, _, _ => .none
  | rounds + 1, gap, cursor =>
    match cursor.peek? with
    | .none => some (gap, cursor)
    | some char =>
      if isBlank char then
        if gap.hasBreak then
          if char = '\t' ∧ tabLimit.any (cursor.column < ·) then .none
          else read tabLimit rounds gap cursor.skip
        else read tabLimit rounds { gap with blanks := gap.blanks ++ [char] } cursor.skip
      else if isBreak char then
        let gap :=
          if gap.hasBreak then { gap with further := gap.further ++ [breakText char] }
          else { gap with blanks := [], hasBreak := true, first := [breakText char] }
        read tabLimit rounds gap cursor.skipBreak
      else some (gap, cursor)

end Gap

/-! ## Plain scalars -/

/-- The characters that end a plain scalar between brackets or braces. -/
def isFlowSign (char : Char) : Bool :=
  char = ',' || char = '[' || char = ']' || char = '\x7b' || char = '\x7d'

/-- A word of a plain scalar: it ends at a gap, at a colon before a gap and, between brackets, at a
sign. -/
def readWord (inFlow : Bool) (word : List Char) : List Char → Option (List Char)
  | [] => some word.reverse
  | char :: rest =>
    if isBlank char || isBreak char then some word.reverse
    else if char = ':' ∧ inFlow ∧ rest.head?.any (fun next => isFlowSign next || next = '?') then
      none
    else if char = ':' ∧ rest.head?.all (fun next => isBlank next || isBreak next) then
      some word.reverse
    else if inFlow && isFlowSign char then some word.reverse
    else readWord inFlow (char :: word) rest

/-- A plain scalar whose lines are indented at least to a column, and whether a line end follows. -/
def readPlain (inFlow : Bool) (indent : Nat) :
    Nat → Gap → List Char → Cursor → Option (List Char × Bool × Cursor)
  | 0, _, _, _ => none
  | rounds + 1, gap, text, cursor =>
    if cursor.atDocumentMark || cursor.peekIs '#' then some (text, gap.hasBreak, cursor)
    else do
      let word ← readWord inFlow [] cursor.rest
      let cursor := cursor.skipMany word.length
      let (text, gap) := if word.isEmpty then (text, gap) else (text ++ gap.text ++ word, .none)
      if cursor.gapAt 0 && !cursor.atEnd then
        let (gap, cursor) ← gap.read (some indent) (cursor.rest.length + 1) cursor
        if !inFlow && cursor.column < indent then return (text, gap.hasBreak, cursor)
        readPlain inFlow indent rounds gap text cursor
      else return (text, gap.hasBreak, cursor)

/-! ## Quoted scalars -/

/-- The character with a number. -/
def charOfNumber? (value : Nat) : Option Char :=
  if h : value.isValidChar then some (Char.ofNatAux value h) else none

/-- The character with a number given by a count of hexadecimal digits, and what follows them. -/
def readNumbered (count : Nat) (rest : List Char) : Option (Char × Nat) := do
  if rest.length < count then none
  let value ← Number.ofDigits? 16 (rest.take count)
  let char ← charOfNumber? value
  return (char, count + 2)

/-- The character that an escape stands for, after its backslash, and the length of the escape. -/
def readEscape : List Char → Option (Char × Nat)
  | '0' :: _ => some ('\x00', 2)
  | 'a' :: _ => some ('\x07', 2)
  | 'b' :: _ => some ('\x08', 2)
  | 't' :: _ | '\t' :: _ => some ('\t', 2)
  | 'n' :: _ => some ('\n', 2)
  | 'v' :: _ => some ('\x0b', 2)
  | 'f' :: _ => some ('\x0c', 2)
  | 'r' :: _ => some ('\r', 2)
  | 'e' :: _ => some ('\x1b', 2)
  | ' ' :: _ => some (' ', 2)
  | '"' :: _ => some ('"', 2)
  | '/' :: _ => some ('/', 2)
  | '\\' :: _ => some ('\\', 2)
  | 'N' :: _ => some ('\u0085', 2)
  | '_' :: _ => some ('\u00a0', 2)
  | 'L' :: _ => some ('\u2028', 2)
  | 'P' :: _ => some ('\u2029', 2)
  | 'x' :: rest => readNumbered 2 rest
  | 'u' :: rest => readNumbered 4 rest
  | 'U' :: rest => readNumbered 8 rest
  | _ => none

/-- A word of a quoted scalar, and whether it ends with an escaped line end. -/
def readQuotedWord (single : Bool) :
    Nat → List Char → Cursor → Option (List Char × Bool × Cursor)
  | 0, _, _ => none
  | rounds + 1, word, cursor =>
    match cursor.rest with
    | [] => some (word.reverse, false, cursor)
    | '\x27' :: rest =>
      if !single then readQuotedWord single rounds ('\x27' :: word) cursor.skip
      else if rest.head? = some '\x27' then
        readQuotedWord single rounds ('\x27' :: word) (cursor.skipMany 2)
      else some (word.reverse, false, cursor)
    | '"' :: _ =>
      if single then readQuotedWord single rounds ('"' :: word) cursor.skip
      else some (word.reverse, false, cursor)
    | '\\' :: rest =>
      if single then readQuotedWord single rounds ('\\' :: word) cursor.skip
      else if cursor.breakAt 1 then some (word.reverse, true, cursor.skip.skipBreak)
      else do
        let (char, size) ← readEscape rest
        readQuotedWord single rounds (char :: word) (cursor.skipMany size)
    | char :: _ =>
      if isBlank char || isBreak char then some (word.reverse, false, cursor)
      else readQuotedWord single rounds (char :: word) cursor.skip

/-- A quoted scalar after its opening quote. -/
def readQuoted (single : Bool) : Nat → List Char → Cursor → Option (List Char × Cursor)
  | 0, _, _ => none
  | rounds + 1, text, cursor =>
    if cursor.atDocumentMark || cursor.atEnd then none
    else do
      let (word, escapedBreak, cursor) ←
        readQuotedWord single (cursor.rest.length + 1) [] cursor
      let text := text ++ word
      if !escapedBreak && cursor.peekIs (if single then '\x27' else '"') then
        return (text, cursor.skip)
      let gap : Gap := { Gap.none with hasBreak := escapedBreak }
      let (gap, cursor) ← gap.read none (cursor.rest.length + 1) cursor
      readQuoted single rounds (text ++ gap.text) cursor

/-! ## Block scalars -/

/-- What becomes of the line ends at the end of a block scalar. -/
inductive Chomping
  | strip
  | clip
  | keep
deriving DecidableEq

/-- The signs after the sign of a block scalar: what to do with the last line ends, and how far the
lines are indented. -/
structure BlockHeader where
  chomping : Chomping
  increment : Option Nat

def chompingOf? : Char → Option Chomping
  | '+' => some .keep
  | '-' => some .strip
  | _ => none

def incrementOf? (char : Char) : Option Nat :=
  if char.isDigit then some (char.toNat - '0'.toNat) else none

/-- The header of a block scalar, and the number of its signs. -/
def readBlockHeader (text : List Char) : Option (BlockHeader × Nat) :=
  let first := text.head?
  let second := text.tail.head?
  let (header, size) : BlockHeader × Nat :=
    match first.bind chompingOf?, first.bind incrementOf? with
    | some chomping, _ =>
      match second.bind incrementOf? with
      | some increment => (⟨chomping, some increment⟩, 2)
      | none => (⟨chomping, none⟩, 1)
    | none, some increment =>
      match second.bind chompingOf? with
      | some chomping => (⟨chomping, some increment⟩, 2)
      | none => (⟨.clip, some increment⟩, 1)
    | none, none => (⟨.clip, none⟩, 0)
  if header.increment = some 0 then none else some (header, size)

/-- The empty lines at a place, and the furthest column that their blanks reach. Without an
indentation all spaces are passed, and with one only those that belong to it. -/
def readEmptyLines (indent : Option Nat) :
    Nat → Nat → List Char → Cursor → Option (List Char × Nat × Cursor)
  | 0, _, _, _ => none
  | rounds + 1, furthest, lines, cursor =>
    match cursor.rest with
    | [] => some (lines, max furthest cursor.column, cursor)
    | char :: _ =>
      let inside := indent.all (cursor.column < ·)
      if char = ' ' ∧ inside then readEmptyLines indent rounds furthest lines cursor.skip
      else if char = '\t' ∧ inside then none
      else
        let furthest := max furthest cursor.column
        if isBreak char then
          readEmptyLines indent rounds furthest (lines ++ [breakText char]) cursor.skipBreak
        else some (lines, furthest, cursor)

/-- The lines of a block scalar. `last` is the end of the line before, and `empty` are the empty
lines after it. -/
def readBlockLines (literal : Bool) (indent : Nat) (chomping : Chomping) :
    Nat → (afterBlank : Bool) → (last empty text : List Char) → Cursor →
      Option (List Char × Cursor)
  | 0, _, _, _, _, _ => none
  | rounds + 1, afterBlank, last, empty, text, cursor =>
    if cursor.column ≠ indent ∨ cursor.atEnd then
      let text := if chomping = .strip then text else text ++ last
      let text := if chomping = .keep then text ++ empty else text
      some (text, cursor)
    else do
      let startsBlank := cursor.blankAt 0
      let folded := !literal && last = ['\n'] && !afterBlank && !startsBlank
      let lead := if folded then if empty.isEmpty then [' '] else [] else last
      let line := cursor.rest.takeWhile fun char => !isBreak char
      let cursor := cursor.skipMany line.length
      let (last, cursor) := match cursor.peek? with
        | some char => ([breakText char], cursor.skipBreak)
        | none => ([], cursor)
      let text := text ++ lead ++ empty ++ line
      let (empty, _, cursor) ←
        readEmptyLines (some indent) (cursor.rest.length + 1) 0 [] cursor
      readBlockLines literal indent chomping rounds startsBlank last empty text cursor

/-- Passes blanks, a comment and the end of the line. -/
def skipLineRest (cursor : Cursor) : Option Cursor :=
  let cursor := cursor.skipWhile isBlank
  let cursor := if cursor.peekIs '#' then cursor.skipWhile fun char => !isBreak char else cursor
  match cursor.peek? with
  | none => some cursor
  | some char => if isBreak char then some cursor.skipBreak else none

/-- A block scalar after its sign. `parent` is the indentation of what it is part of, if there is
any. -/
def readBlock (literal : Bool) (parent : Option Nat) (cursor : Cursor) :
    Option (List Char × Cursor) := do
  let (header, size) ← readBlockHeader cursor.rest
  let cursor ← skipLineRest (cursor.skipMany size)
  let given := header.increment.map fun increment => parent.getD 0 + increment
  let (empty, furthest, cursor) ← readEmptyLines given (cursor.rest.length + 1) 0 [] cursor
  let indent := given.getD (max furthest (max (parent.elim 0 (· + 1)) 1))
  readBlockLines literal indent header.chomping (cursor.rest.length + 1) false [] empty [] cursor

end RuleLexer.Yaml
