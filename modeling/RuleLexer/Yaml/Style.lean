import RuleLexer.Yaml.Resolution

/-!
# Styles of written scalars

A text is written plain if it can be read back from that. Otherwise it is put between single quotes,
unless it has characters that must be escaped, which takes double quotes. A text with line feeds is
written line by line if its lines survive that.
-/
namespace RuleLexer.Yaml

/-- How a scalar is written. -/
inductive WrittenStyle
  | plain
  | singleQuoted
  | doubleQuoted
  | literal
deriving DecidableEq

/-- Whether a character can be written as it is. -/
def isPrintable (char : Char) : Bool :=
  isAllowed char && char ≠ '\t' && char ≠ '\r' && char ≠ '\u0085'

/-- The signs that no plain scalar begins with. -/
def isLeadingSign (char : Char) : Bool := char ∈ "#,[]\x7b\x7d&*!|>'\"%@`".toList

/-- Whether a text ends or a gap follows. -/
def gapFollows (text : List Char) : Bool :=
  text.head?.all fun char => isBlank char || isBreak char

/-- Whether a sign inside of a text would end a plain scalar. -/
def endsPlain (afterGap : Bool) : List Char → Bool
  | [] => false
  | char :: rest =>
    (char = ':' && gapFollows rest) || (char = '#' && afterGap) ||
      endsPlain (isBlank char || isBreak char) rest

/-- Whether the beginning of a text would be taken for something else than a plain scalar. -/
def startsOtherwise : List Char → Bool
  | [] => false
  | char :: rest =>
    isLeadingSign char || ((char = '?' || char = ':' || char = '-') && gapFollows rest)

/-- Whether two neighbouring characters pass two tests. -/
def hasPair (first second : Char → Bool) : List Char → Bool
  | char :: next :: rest => (first char && second next) || hasPair first second (next :: rest)
  | _ => false

def isSpace (char : Char) : Bool := char = ' '

def isMultiline (text : List Char) : Bool := text.any isBreak

/-- Whether a text that is not empty can be written plain. It neither begins nor ends with a space.
-/
def allowsPlain (text : List Char) : Bool :=
  let ends := [text.head?, text.getLast?].any fun char => char = some ' '
  let mark := "---".toList.isPrefixOf text || "...".toList.isPrefixOf text
  text.all isPrintable && !isMultiline text && !ends && !mark && !startsOtherwise text &&
    !endsPlain false text.tail

/-- Whether the lines of a text survive folding and nothing must be escaped. -/
def allowsSingleQuotes (text : List Char) : Bool :=
  text.all isPrintable && !hasPair isSpace isBreak text && !hasPair isBreak isSpace text

/-- Whether a text can be written line by line. -/
def allowsLiteral (text : List Char) : Bool :=
  text.all isPrintable && !hasPair isSpace isBreak text && text.getLast? ≠ some ' '

/-- Whether a plain scalar would be read as something else than its text, or could be. -/
def needsQuotes (text : List Char) : Bool :=
  isZeroPadded text ||
    match plainDatum? text with
    | some (.string _) => false
    | _ => true

/-- The style that a text is written in. -/
def styleOf (text : List Char) : WrittenStyle :=
  if text.contains '\n' then if allowsLiteral text then .literal else .doubleQuoted
  else if !needsQuotes text && allowsPlain text then .plain
  else if allowsSingleQuotes text then .singleQuoted
  else .doubleQuoted

end RuleLexer.Yaml
