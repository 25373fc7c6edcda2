import RuleLexer.Regex.Bracket

/-!
# The text of a pattern

`Expr.ofSource` reads a pattern in one pass from left to right and builds its expression while it
reads, because a flag set inside the pattern acts on what follows it up to the end of its group.
Every round of the reader consumes a character, so the length of the text bounds their number.

The reader also keeps the nesting depth that each piece of the pattern has when it is written as a
tree, and refuses patterns that are nested too deeply.
-/
namespace RuleLexer.Regex

/-! ## Operators -/

/-- The number that decimal digits stand for, if there are any. Counts are words of 32 bits. -/
def countOf (digits : List Char) : Except SourceError (Option Nat) :=
  let value := digits.foldl (fun value char => value * 10 + (char.toNat - '0'.toNat)) 0
  if digits.isEmpty then .ok none
  else if value < Nat.pow 2 32 then .ok (some value)
  else .error .countInvalid

/-- A decimal number between blanks, or none. -/
def readCount (flags : Flags) (text : List Char) :
    Except SourceError (Option Nat × List Char) := do
  let text := text.dropWhile isBlank
  let (digits, rest) := readRun flags Char.isDigit (text.length + 1) text
  return (← countOf digits, rest.dropWhile isBlank)

/-- The bounds of a repetition, after the comma and up to the closing brace. -/
def readUpperBound (flags : Flags) (least : Option Nat) (text : List Char) :
    Except SourceError ((Nat × Option Nat) × List Char) := do
  match flags.skip text with
  | [] => throw .countUnclosed
  | '}' :: rest =>
    let some least := least | throw .countMissing
    return ((least, none), rest)
  | text =>
    let some least := least | throw .countMissing
    let (some most, '}' :: rest) ← readCount flags text | throw .countUnclosed
    if most < least then throw .countInvalid
    return ((least, some most), rest)

/-- The bounds of a repetition, after the opening brace and up to the closing one. -/
def readBounds (flags : Flags) (text : List Char) :
    Except SourceError ((Nat × Option Nat) × List Char) := do
  let text := flags.skip text
  if text.isEmpty then throw .countUnclosed
  let (least, rest) ← readCount flags text
  match rest with
  | ',' :: rest => readUpperBound flags least rest
  | '}' :: rest =>
    let some least := least | throw .countMissing
    return ((least, some least), rest)
  | _ => throw .countUnclosed

/-! ## Groups -/

/-- Where the reader stands: the rest of the text, the flags in force, and the groups so far. -/
structure Reader where
  rest : List Char
  flags : Flags
  captures : Nat
  names : List (List Char)

/-- The letters of a group's flags that have been read, and what they make of the flags. -/
structure FlagLetters where
  flags : Flags
  seen : List Char
  negated : Bool

/-- One more letter, or a hyphen, given with the character after it. -/
def FlagLetters.add (letters : FlagLetters) (char : Char) (next : Option Char) :
    Except SourceError FlagLetters :=
  if letters.seen.contains char then .error .flagRepeated
  else if char = '-' then
    if next = some ':' ∨ next = some ')' then .error .flagsDangling
    else .ok { letters with seen := char :: letters.seen, negated := true }
  else
    match letters.flags.set? char (!letters.negated) with
    | some flags => .ok { letters with flags, seen := char :: letters.seen }
    | none => .error .flagUnknown

/-- The flags of a group, up to a colon or a closing parenthesis. -/
def readFlags (letters : FlagLetters) : List Char → Except SourceError (FlagLetters × List Char)
  | [] => .error .groupUnclosed
  | char :: rest =>
    if char = ':' ∨ char = ')' then .ok (letters, char :: rest)
    else do readFlags (← letters.add char rest.head?) rest

/-- Whether a character may stand in the name of a group. -/
def isNameChar (first : Bool) (char : Char) : Bool :=
  char = '_' || isLetter char ||
    (!first && (char = '.' || char = '[' || char = ']' || isNumeric char))

/-- The name of a group, up to and with the closing angle bracket. -/
def readName (text : List Char) : Except SourceError (List Char × List Char) := do
  let name := text.takeWhile (· != '>')
  let '>' :: rest := text.drop name.length | throw .groupName
  match name with
  | [] => throw .groupName
  | first :: more =>
    if isNameChar true first && more.all (isNameChar false) then return (name, rest)
    else throw .groupName

/-- How a group begins. -/
inductive GroupStart
  | capture (index : Nat)
  | plain
  /-- No group but flags for the rest of the enclosing one. -/
  | flags

/-- The name of a group up to its contents. -/
def Reader.openNamed (reader : Reader) (text : List Char) :
    Except SourceError (GroupStart × Reader) := do
  let (name, rest) ← readName text
  if reader.names.contains name then throw .groupName
  let index := reader.captures + 1
  return (.capture index,
    { reader with rest, captures := index, names := name :: reader.names })

/-- The flags of a group up to its contents, or up to the end of what sets flags only. -/
def Reader.openFlags (reader : Reader) (text : List Char) :
    Except SourceError (GroupStart × Reader) := do
  let (letters, rest) ← readFlags ⟨reader.flags, [], false⟩ text
  match rest with
  | ':' :: rest => return (.plain, { reader with rest, flags := letters.flags })
  | _ :: rest =>
    if letters.seen.isEmpty then throw .operandMissing
    return (.flags, { reader with rest, flags := letters.flags })
  | [] => throw .groupUnclosed

/-- The text after an opening parenthesis up to the contents of the group. -/
def Reader.openGroup (reader : Reader) (text : List Char) :
    Except SourceError (GroupStart × Reader) :=
  match reader.flags.skip text with
  | '?' :: '=' :: _ | '?' :: '!' :: _ | '?' :: '<' :: '=' :: _ | '?' :: '<' :: '!' :: _ =>
    .error .lookAround
  | '?' :: 'P' :: '<' :: rest => reader.openNamed rest
  | '?' :: '<' :: rest => reader.openNamed rest
  | '?' :: rest => reader.openFlags rest
  | rest =>
    let index := reader.captures + 1
    .ok (.capture index, { reader with rest, captures := index })

/-! ## Patterns -/

/-- A piece of a sequence; the setting of flags is a piece without an expression. -/
abbrev Piece := Option Expr × Nat

def Piece.depth (pieces : List Piece) : Nat :=
  match pieces with
  | [] => 0
  | [piece] => piece.2
  | pieces => (pieces.map (·.2)).foldl max 0 + 1

/-- A sequence from its pieces, the last one first. -/
def closeSequence (pieces : List Piece) : Nested Expr :=
  ⟨.sequence (pieces.reverse.filterMap (·.1)), Piece.depth pieces⟩

/-- An alternative from the branches before the last one, latest first, and the last one. -/
def closeChoice (branches : List (Nested Expr)) (last : Nested Expr) : Nested Expr :=
  match branches with
  | [] => last
  | branches =>
    let all := branches.reverse ++ [last]
    ⟨.choice (all.map (·.value)), (all.map (·.depth)).foldl max 0 + 1⟩

/-- Whether a question mark follows an operator, and the text after that. -/
def lazyMark : List Char → Bool × List Char
  | '?' :: rest => (true, rest)
  | text => (false, text)

/-- Applies a repetition to the latest piece. -/
def repeatLatest (flags : Flags) (least : Nat) (most : Option Nat) (lazy : Bool)
    (pieces : List Piece) : Except SourceError (List Piece) :=
  match pieces with
  | (some body, depth) :: rest =>
    .ok ((some (.repeated least most (lazy = flags.swapGreed) body), depth + 1) :: rest)
  | _ => .error .operandMissing

/-- A group while it is read: where the reader stands, the branches before the current one and the
pieces of the current one, each with the latest first. -/
structure Reading where
  reader : Reader
  branches : List (Nested Expr)
  pieces : List Piece

namespace Reading

/-- Nothing of the group has been read. -/
def start (reader : Reader) : Reading := ⟨reader, [], []⟩

/-- The contents of the group, if it ends here. -/
def result (reading : Reading) : Nested Expr :=
  closeChoice reading.branches (closeSequence reading.pieces)

def push (reading : Reading) (piece : Piece) (reader : Reader) : Reading :=
  { reading with reader, pieces := piece :: reading.pieces }

end Reading

/-- What the reader of a group comes upon. -/
inductive Turn
  /-- The end of the text, or a parenthesis that closes the group. -/
  | close (reader : Reader)
  | next (reading : Reading)
  /-- A group within the group; only a capturing one has an index. -/
  | group (index : Option Nat) (inner : Reader)

namespace Reading

/-- One more piece, with the text after it. -/
def piece (reading : Reading) (expr : Expr) (depth : Nat) (rest : List Char) : Turn :=
  .next (reading.push (some expr, depth) { reading.reader with rest })

/-- An operator, with the text after it; a question mark makes it lazy. -/
def operator (reading : Reading) (least : Nat) (most : Option Nat) (rest : List Char) :
    Except SourceError Turn := do
  let (lazy, rest) := lazyMark rest
  let pieces ← repeatLatest reading.reader.flags least most lazy reading.pieces
  return .next { reading with reader := { reading.reader with rest }, pieces }

/-- The group that an opening parenthesis begins, unless it sets flags only. -/
def opened (reading : Reading) (rest : List Char) : Except SourceError Turn := do
  let (start, inner) ← reading.reader.openGroup rest
  match start with
  | .flags => return .next (reading.push (none, 0) inner)
  | .capture index => return .group (some index) inner
  | .plain => return .group none inner

/-- What a character that does not end the group begins, given the text after it. -/
def begun (reading : Reading) (char : Char) (rest : List Char) : Except SourceError Turn := do
  let flags := reading.reader.flags
  match char with
  | '|' =>
    return .next
      ⟨{ reading.reader with rest }, closeSequence reading.pieces :: reading.branches, []⟩
  | '(' => reading.opened rest
  | '[' =>
    let ((negated, items), rest) ← readSetStart flags rest
    let (set, rest) ← readSet flags negated (rest.length + 1) none items rest
    return reading.piece (.ofSet set.value) (set.depth + 1) rest
  | '?' => reading.operator 0 (some 1) rest
  | '*' => reading.operator 0 none rest
  | '+' => reading.operator 1 none rest
  | '{' =>
    if (reading.pieces.head?.bind (·.1)).isNone then throw .operandMissing
    let ((least, most), rest) ← readBounds flags rest
    reading.operator least most (flags.skip rest)
  | '\\' =>
    let (atom, rest) ← readEscape flags rest
    return reading.piece (← flags.atom atom) 0 rest
  | char => return reading.piece (← flags.single char) 0 rest

/-- A group within the group becomes a piece. The flags that it sets end with it. -/
def leave (reading : Reading) (index : Option Nat) (body : Nested Expr) (after : Reader) :
    Reading :=
  let expr := index.elim body.value fun index => .capture index body.value
  reading.push (some expr, body.depth + 1) { after with flags := reading.reader.flags }

/-- Reads on to the next piece, operator, branch or group. -/
def turn (reading : Reading) : Except SourceError Turn :=
  match reading.reader.flags.skip reading.reader.rest with
  | [] => .ok (.close { reading.reader with rest := [] })
  | ')' :: rest => .ok (.close { reading.reader with rest := ')' :: rest })
  | char :: rest => reading.begun char rest

end Reading

/-- Reads branches up to the end of the text or a parenthesis that closes the group. -/
def readBranches : Nat → Reading → Except SourceError (Nested Expr × Reader)
  | 0, reading => .ok (reading.result, reading.reader)
  | fuel + 1, reading => do
    match ← reading.turn with
    | .close reader => return (reading.result, reader)
    | .next reading => readBranches fuel reading
    | .group index inner =>
      let (body, after) ← readBranches fuel (.start inner)
      let ')' :: rest := after.rest | throw .groupUnclosed
      readBranches fuel (reading.leave index body { after with rest })

/-- How deeply a pattern may be nested. -/
def nestLimit : Nat := 250

/-- The expression of a pattern whose text is a whole pattern. -/
def Expr.ofSource (flags : Flags) (source : List Char) : Except SourceError Expr := do
  let (result, reader) ← readBranches (source.length + 1) (.start ⟨source, flags, 0, []⟩)
  if !reader.rest.isEmpty then throw .groupUnopened
  if result.depth > nestLimit then throw .nestedTooDeeply
  return result.value

end RuleLexer.Regex
