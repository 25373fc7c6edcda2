import RuleLexer.Yaml.Style

/-!
# Writing YAML

Collections are written with one item or pair on each line, and an inner collection is indented by
two columns. The items of a sequence stand in the column of the key that they belong to. A key that
is long or has several lines is written after a sign of its own.

The page keeps what has been written, and enough about the end of its last line to know whether a
space or a new line is needed.
-/
namespace RuleLexer.Yaml

structure Page where
  /-- The latest character first. -/
  written : List Char
  column : Nat
  /-- A space would be superfluous. -/
  spaced : Bool
  /-- Nothing but indentation and signs has been written on the line. -/
  lineIsOpen : Bool

namespace Page

def empty : Page := ⟨[], 0, true, true⟩

def put (page : Page) (text : List Char) : Page :=
  { page with written := text.reverse ++ page.written, column := page.column + text.length }

/-- Ends the line with a character. -/
def putBreak (page : Page) (char : Char) : Page :=
  { page with written := char :: page.written, column := 0 }

/-- Goes to a column, on a new line unless nothing has been written on this one so far. -/
def goTo (page : Page) (column : Nat) : Page :=
  let newLine := !page.lineIsOpen || page.column > column ||
    (page.column = column && !page.spaced)
  let page := if newLine then page.putBreak '\n' else page
  let page := page.put (List.replicate (column - page.column) ' ')
  { page with spaced := true, lineIsOpen := true }

/-- Writes a sign, with a space before it if it needs one. -/
def sign (page : Page) (text : List Char) (needsSpace spaced keepsLine : Bool) : Page :=
  let page := if needsSpace && !page.spaced then page.put [' '] else page
  { page.put text with spaced, lineIsOpen := page.lineIsOpen && keepsLine }

/-- Writes the text of a plain scalar. -/
def plain (page : Page) (text : List Char) : Page :=
  let page := if page.spaced || text.isEmpty then page else page.put [' ']
  { page.put text with spaced := false, lineIsOpen := false }

/-- Writes the lines of a text, each after `column` blanks, with single quotes doubled. -/
def singleQuotedChars (column : Nat) : (afterBreak : Bool) → Page → List Char → Page
  | afterBreak, page, [] => if afterBreak then page.goTo column else page
  | afterBreak, page, char :: rest =>
    if isBreak char then
      singleQuotedChars column true { page.putBreak char with lineIsOpen := true } rest
    else
      let page := if afterBreak && !isSpace char then page.goTo column else page
      let page := page.put (if char = '\x27' then ['\x27', '\x27'] else [char])
      let page := if isSpace char then page else { page with lineIsOpen := false }
      singleQuotedChars column (afterBreak && isSpace char) page rest

def singleQuoted (page : Page) (column : Nat) (text : List Char) : Page :=
  let page := page.sign ['\x27'] true false false
  let page := singleQuotedChars column false page text
  { page.sign ['\x27'] false false false with spaced := false, lineIsOpen := false }

def hexDigits (count value : Nat) : List Char :=
  let digits := (Nat.toDigits 16 value).map Char.toUpper
  List.replicate (count - digits.length) '0' ++ digits

/-- A character between double quotes. -/
def escaped (char : Char) : List Char :=
  match char with
  | '\x00' => ['\\', '0']
  | '\x07' => ['\\', 'a']
  | '\x08' => ['\\', 'b']
  | '\t' => ['\\', 't']
  | '\n' => ['\\', 'n']
  | '\x0b' => ['\\', 'v']
  | '\x0c' => ['\\', 'f']
  | '\r' => ['\\', 'r']
  | '\x1b' => ['\\', 'e']
  | '"' => ['\\', '"']
  | '\\' => ['\\', '\\']
  | '\u0085' => ['\\', 'N']
  | '\u2028' => ['\\', 'L']
  | '\u2029' => ['\\', 'P']
  | char =>
    if isPrintable char then [char]
    else if char.toNat ≤ 0xFF then '\\' :: 'x' :: hexDigits 2 char.toNat
    else if char.toNat ≤ 0xFFFF then '\\' :: 'u' :: hexDigits 4 char.toNat
    else '\\' :: 'U' :: hexDigits 8 char.toNat

def doubleQuoted (page : Page) (text : List Char) : Page :=
  let page := page.sign ['"'] true false false
  let page := page.put (text.flatMap escaped)
  { page.sign ['"'] false false false with spaced := false, lineIsOpen := false }

/-- The signs after the sign of a literal scalar: the indentation, if the text does not show it, and
what is to become of the line ends at the end. -/
def literalHints (text : List Char) : List Char :=
  let indentation := if text.head?.any fun char => isSpace char || isBreak char then ['2'] else []
  let chomping := match text.reverse with
    | last :: previous =>
      if !isBreak last then ['-']
      else if previous.head?.all isBreak then ['+']
      else []
    | [] => ['-']
  indentation ++ chomping

def literalLines (column : Nat) : (afterBreak : Bool) → Page → List Char → Page
  | _, page, [] => page
  | afterBreak, page, char :: rest =>
    if isBreak char then
      literalLines column true { page.putBreak char with lineIsOpen := true } rest
    else
      let page := if afterBreak then page.goTo column else page
      literalLines column false { page.put [char] with lineIsOpen := false } rest

def literal (page : Page) (column : Nat) (text : List Char) : Page :=
  let page := page.sign ['|'] true false false
  let page := page.sign (literalHints text) false false false
  let page := { page.putBreak '\n' with spaced := true, lineIsOpen := true }
  literalLines column true page text

def string (page : Page) (column : Nat) (text : List Char) : Page :=
  match styleOf text with
  | .plain => page.plain text
  | .singleQuoted => page.singleQuoted column text
  | .doubleQuoted => page.doubleQuoted text
  | .literal => page.literal column text

/-- The column of what belongs to something at an indentation. -/
def innerColumn (indent : Option Nat) : Nat := indent.elim 0 (· + 2)

/-- Whether a key can stand before its colon without a sign. -/
def isSimpleKey (key : List Char) : Bool :=
  !isMultiline key && (String.ofList key).utf8ByteSize ≤ 128

mutual

/-- Writes data that is part of something at an indentation. `ofPair` holds for the key or the value
of a pair. -/
def datum (page : Page) (indent : Option Nat) (ofPair : Bool) : Datum → Page
  | .null => page.plain "null".toList
  | .bool true => page.plain "true".toList
  | .bool false => page.plain "false".toList
  | .natural value => page.plain (Nat.toDigits 10 value)
  | .number => page.plain "null".toList
  | .string value => page.string (indent.elim 2 (· + 2)) value.toList
  | .list [] => (page.sign ['['] true true false).sign [']'] false false false
  | .map [] => (page.sign ['\x7b'] true true false).sign ['\x7d'] false false false
  | .list (item :: rest) =>
    let column := if ofPair && !page.lineIsOpen then indent.getD 0 else innerColumn indent
    items page column (item :: rest)
  | .map (pair :: rest) => pairs page (innerColumn indent) (pair :: rest)

def items (page : Page) (column : Nat) : List Datum → Page
  | [] => page
  | item :: rest =>
    let page := (page.goTo column).sign ['-'] true false true
    items (datum page (some column) false item) column rest

def pairs (page : Page) (column : Nat) : List (Datum × Datum) → Page
  | [] => page
  | (key, value) :: rest =>
    let page := page.goTo column
    let simple := match key with
      | .string key => isSimpleKey key.toList
      | .list (_ :: _) | .map (_ :: _) => false
      | _ => true
    let page := if simple then page else page.sign ['?'] true false true
    let page := datum page (some column) true key
    let page := if simple then page.sign [':'] false false false
      else (page.goTo column).sign [':'] true false true
    pairs (datum page (some column) true value) column rest

end

end Page

/-- Writes data as a document. -/
def writeDatum (datum : Datum) : String :=
  String.ofList ((Page.empty.datum none false datum).goTo 0).written.reverse

end RuleLexer.Yaml
