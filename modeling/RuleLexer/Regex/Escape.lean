import RuleLexer.Number
import RuleLexer.Regex.Expr
import RuleLexer.Regex.Flags
import RuleLexer.Regex.SourceError
import RuleLexer.Unicode.Folding
import RuleLexer.Unicode.Name

/-!
# Single characters and escapes

A character of a pattern stands for itself or, after a backslash, for a character, a set or an
assertion. It is read first as an atom, whose meaning depends on the flags in force and on whether
it stands in a set in brackets.
-/
namespace RuleLexer.Regex

/-- What is read ahead of its meaning under the flags: an escape or a single character. -/
inductive Atom
  /-- `asByte` marks a character given by two hexadecimal digits, which may stand for a byte. -/
  | char (char : Char) (asByte : Bool)
  | look (assertion : WordScope → Assertion)
  | shorthand (unicode : CharSet) (ascii : List (Nat × Nat)) (negated : Bool)
  | property (set : Option CharSet) (negated : Bool)

def isBlank (char : Char) : Bool := Unicode.Shorthand.space.contains char

def isLetter (char : Char) : Bool := Unicode.Property.alphabetic.contains char

def isNumeric (char : Char) : Bool :=
  Unicode.Category.decimalNumber.contains char || Unicode.Category.letterNumber.contains char ||
    Unicode.Category.otherNumber.contains char

/-- Drops blanks, and comments from a number sign to the end of the line. -/
def dropBlanks (inComment : Bool) : List Char → List Char
  | [] => []
  | char :: rest =>
    if inComment then dropBlanks (char != '\n') rest
    else if isBlank char then dropBlanks false rest
    else if char = '#' then dropBlanks true rest
    else char :: rest

/-- Drops what the flags say is not part of the pattern. -/
def Flags.skip (flags : Flags) (text : List Char) : List Char :=
  if flags.ignoreBlanks then dropBlanks false text else text

/-- The characters of a kind that a text begins with, without the blanks among them. -/
def readRun (flags : Flags) (wanted : Char → Bool) : Nat → List Char → List Char × List Char
  | fuel + 1, char :: rest =>
    if wanted char then
      let (more, rest) := readRun flags wanted fuel (flags.skip rest)
      (char :: more, rest)
    else ([], char :: rest)
  | _, text => ([], text)

/-- The first character of a text that is no blank, looking past one number sign. -/
def peekPastBlanks (text : List Char) : Option Char :=
  let rest := text.dropWhile isBlank
  let rest := if rest.head? = some '#' then rest.tail.dropWhile isBlank else rest
  rest.head? <|> text.head?

/-- The character after a hyphen that may be part of a range. -/
def Flags.peek (flags : Flags) (text : List Char) : Option Char :=
  if flags.ignoreBlanks then peekPastBlanks text else text.head?

def scalar? (value : Nat) : Except SourceError Char :=
  if value.isValidChar then .ok (Char.ofNat value) else .error .hexadecimal

/-- A fixed number of hexadecimal digits. -/
def readHexDigits (flags : Flags) (value : Nat) :
    Nat → List Char → Except SourceError (Nat × List Char)
  | 0, text => .ok (value, text)
  | _ + 1, [] => .error .escapeUnfinished
  | count + 1, char :: rest =>
    match Number.digitValue? char with
    | some digit => readHexDigits flags (value * 16 + digit) count (flags.skip rest)
    | none => .error .hexadecimal

/-- Characters up to a closing brace, without the blanks among them. -/
def readBraced (flags : Flags) : Nat → List Char → Except SourceError (List Char × List Char)
  | 0, _ => .error .escapeUnfinished
  | fuel + 1, text =>
    match flags.skip text with
    | [] => .error .escapeUnfinished
    | '}' :: rest => .ok ([], rest)
    | char :: rest => do
      let (chars, rest) ← readBraced flags fuel rest
      return (char :: chars, rest)

def readHex (flags : Flags) (letter : Char) (text : List Char) :
    Except SourceError (Atom × List Char) := do
  match flags.skip text with
  | [] => throw .escapeUnfinished
  | '{' :: rest =>
    let (digits, rest) ← readBraced flags (rest.length + 1) rest
    match Number.ofDigits? 16 digits with
    | some value => return (.char (← scalar? value) false, flags.skip rest)
    | none => throw .hexadecimal
  | text =>
    let count := if letter = 'x' then 2 else if letter = 'u' then 4 else 8
    let (value, rest) ← readHexDigits flags 0 count text
    return (.char (← scalar? value) (letter = 'x'), rest)

/-- Cuts a text at the first place where `separator` stands. -/
def cutAt? (separator : List Char) : List Char → Option (List Char × List Char)
  | [] => none
  | char :: rest =>
    if separator.isPrefixOf (char :: rest) then
      some ([], (char :: rest).drop separator.length)
    else (cutAt? separator rest).map fun (front, back) => (char :: front, back)

/-- The class that the braces of a property name. -/
def propertyAtom (negated : Bool) (name : List Char) : Atom :=
  match cutAt? ['!', '='] name with
  | some (property, value) => .property (Unicode.valued? property value) (!negated)
  | none =>
    match cutAt? [':'] name <|> cutAt? ['='] name with
    | some (property, value) => .property (Unicode.valued? property value) negated
    | none => .property (Unicode.named? name) negated

def readProperty (flags : Flags) (negated : Bool) (text : List Char) :
    Except SourceError (Atom × List Char) := do
  match flags.skip text with
  | [] => throw .escapeUnfinished
  | '{' :: rest =>
    let (name, rest) ← readBraced flags (rest.length + 1) rest
    return (propertyAtom negated name, rest)
  | '\\' :: _ => throw .unknownProperty
  | char :: rest => return (.property (Unicode.named? [char]) negated, flags.skip rest)

/-- The word boundary that a name in braces stands for. -/
def boundary? (name : String) : Option (WordScope → Assertion) :=
  match name with
  | "start" => some .wordStart
  | "end" => some .wordEnd
  | "start-half" => some .wordStartHalf
  | "end-half" => some .wordEndHalf
  | _ => none

/-- The characters of the name of a word boundary. -/
def isBoundaryChar (char : Char) : Bool := char.isAlpha || char = '-'

/-- A word boundary, which may carry a name in braces. Braces that do not start with a letter or a
hyphen are left to be read as a count. -/
def readBoundary (flags : Flags) (text : List Char) :
    Except SourceError (Atom × List Char) := do
  match text with
  | '{' :: rest =>
    match flags.skip rest with
    | [] => throw .wordBoundary
    | char :: more =>
      if isBoundaryChar char then
        match readRun flags isBoundaryChar (more.length + 1) (char :: more) with
        | (name, '}' :: rest) =>
          let some assertion := boundary? (.ofList name) | throw .wordBoundary
          return (.look assertion, rest)
        | _ => throw .wordBoundary
      else return (.look .wordEdge, text)
  | _ => return (.look .wordEdge, text)

def isMeta (char : Char) : Bool := "\\.+*?()|[]\x7b\x7d^$#&-~".toList.contains char

/-- Whether a backslash before the character only takes its special meaning away. -/
def isEscapable (char : Char) : Bool :=
  isMeta char || (char.toNat < 0x80 && !char.isAlphanum && char != '<' && char != '>')

def asciiDigit : List (Nat × Nat) := [(0x30, 0x39)]

def asciiSpace : List (Nat × Nat) := [(0x09, 0x0D), (0x20, 0x20)]

def asciiWord : List (Nat × Nat) := [(0x30, 0x39), (0x41, 0x5A), (0x5F, 0x5F), (0x61, 0x7A)]

/-- The meaning of a character after a backslash, if nothing that follows belongs to it. -/
def escape? (char : Char) : Option Atom :=
  match char with
  | 'd' => some (.shorthand Unicode.Shorthand.digit asciiDigit false)
  | 'D' => some (.shorthand Unicode.Shorthand.digit asciiDigit true)
  | 's' => some (.shorthand Unicode.Shorthand.space asciiSpace false)
  | 'S' => some (.shorthand Unicode.Shorthand.space asciiSpace true)
  | 'w' => some (.shorthand Unicode.Shorthand.word asciiWord false)
  | 'W' => some (.shorthand Unicode.Shorthand.word asciiWord true)
  | 'a' => some (.char '\x07' false)
  | 'f' => some (.char '\x0C' false)
  | 't' => some (.char '\t' false)
  | 'n' => some (.char '\n' false)
  | 'r' => some (.char '\r' false)
  | 'v' => some (.char '\x0B' false)
  | 'A' => some (.look fun _ => .textStart)
  | 'z' => some (.look fun _ => .textEnd)
  | 'B' => some (.look .noWordEdge)
  | '<' => some (.look .wordStart)
  | '>' => some (.look .wordEnd)
  | char => if isEscapable char then some (.char char false) else none

/-- What stands after a backslash. -/
def readEscape (flags : Flags) (text : List Char) : Except SourceError (Atom × List Char) := do
  let char :: rest := text | throw .escapeUnfinished
  if "xuU".toList.contains char then readHex flags char rest
  else if char = 'p' ∨ char = 'P' then readProperty flags (char = 'P') rest
  else if char = 'b' then readBoundary flags rest
  else
    let some atom := escape? char | throw .escapeUnknown
    return (atom, rest)

def Flags.scope (flags : Flags) : WordScope := if flags.unicode then .unicode else .ascii

/-- The ASCII letters that differ from one of a set in case only. -/
def foldAscii (set : CharSet) : CharSet :=
  let lower := set ∩ .range 0x61 0x7A
  let upper := set ∩ .range 0x41 0x5A
  set ∪ .ofRanges (lower.ranges.map fun range => (range.1 - 32, range.2 - 32)) ∪
    .ofRanges (upper.ranges.map fun range => (range.1 + 32, range.2 + 32))

/-- A set under the flags: case is folded before the set is negated. Without Unicode a negated set
would hold bytes that are no characters. -/
def Flags.finish (flags : Flags) (negated : Bool) (set : CharSet) : Except SourceError CharSet :=
  let folded :=
    if !flags.caseInsensitive then set
    else if flags.unicode then set.foldCase
    else foldAscii set
  if !negated then .ok folded
  else if flags.unicode then .ok folded.complement
  else .error .notUtf8

def Flags.shorthand (flags : Flags) (unicode : CharSet) (ascii : List (Nat × Nat))
    (negated : Bool) : Except SourceError CharSet :=
  if flags.unicode then .ok (if negated then unicode.complement else unicode)
  else if negated then .error .notUtf8
  else .ok ⟨ascii⟩

def Flags.property (flags : Flags) (set : Option CharSet) (negated : Bool) :
    Except SourceError CharSet :=
  if !flags.unicode then .error .unicodeRequired
  else
    match set with
    | none => .error .unknownProperty
    | some set => flags.finish negated set

/-- A character where the pattern stands for itself. -/
def Flags.literal (flags : Flags) (char : Char) (asByte : Bool) : Except SourceError Expr :=
  if !flags.unicode && asByte && char.toNat > 0x7F then .error .notUtf8
  else if !flags.caseInsensitive then .ok (.literal [char])
  else if flags.unicode then .ok (.ofSet (CharSet.single char).foldCase)
  else .ok (.ofSet (foldAscii (.single char)))

def Flags.atom (flags : Flags) : Atom → Except SourceError Expr
  | .char char asByte => flags.literal char asByte
  | .look assertion => .ok (.look (assertion flags.scope))
  | .shorthand unicode ascii negated => Expr.ofSet <$> flags.shorthand unicode ascii negated
  | .property set negated => Expr.ofSet <$> flags.property set negated

def Flags.dot (flags : Flags) : Except SourceError Expr :=
  if !flags.unicode then .error .notUtf8
  else if flags.dotMatchesNewline then .ok (.ofSet .full)
  else if flags.crlf then
    .ok (.ofSet (CharSet.full.difference (.single '\n' ∪ .single '\r')))
  else .ok (.ofSet (CharSet.single '\n').complement)

def Flags.lineStart (flags : Flags) : Assertion :=
  if !flags.multiLine then .textStart else if flags.crlf then .lineStartCrlf else .lineStart

def Flags.lineEnd (flags : Flags) : Assertion :=
  if !flags.multiLine then .textEnd else if flags.crlf then .lineEndCrlf else .lineEnd

/-- What a single character stands for. -/
def Flags.single (flags : Flags) : Char → Except SourceError Expr
  | '.' => flags.dot
  | '^' => .ok (.look flags.lineStart)
  | '$' => .ok (.look flags.lineEnd)
  | char => flags.literal char false

end RuleLexer.Regex
