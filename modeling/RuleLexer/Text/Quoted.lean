import RuleLexer.Unicode.Category
import RuleLexer.Unicode.Property

/-!
# Quoted text

Text is shown so that it stays on one line and every character can be seen: some characters have an
escape of their own, and those that leave no mark or would change the one before them are shown by
their number. What else is escaped depends on the quotes around the text, so each use has a style.
-/
namespace RuleLexer.Text

/-- What is escaped besides the characters that always are. -/
structure QuoteStyle where
  singleQuote : Bool
  doubleQuote : Bool
  /-- Characters that join the one before them, where they are not the first. -/
  laterExtenders : Bool
deriving DecidableEq, Repr

namespace QuoteStyle

/-- Text without quotes around it. -/
def bare : QuoteStyle := ⟨true, true, false⟩

/-- Text between double quotes. -/
def double : QuoteStyle := ⟨false, true, true⟩

/-- A character between single quotes. -/
def single : QuoteStyle := ⟨true, false, true⟩

end QuoteStyle

/-- Whether a character joins the one before it. -/
def isExtender (char : Char) : Bool := Unicode.Property.graphemeExtend.contains char

/-- The sets of characters that leave no mark of their own or have no agreed one. -/
def unmarked : List CharSet :=
  [Unicode.Category.control, Unicode.Category.format, Unicode.Category.privateUse,
    Unicode.Category.unassigned, Unicode.Category.spaceSeparator,
    Unicode.Category.lineSeparator, Unicode.Category.paragraphSeparator,
    Unicode.Property.defaultIgnorableCodePoint]

/-- Whether a character leaves a mark or is the plain space. -/
def isPrintable (char : Char) : Bool :=
  char = ' ' || !unmarked.any fun set => set.contains char

/-- A character as its number in hexadecimal digits. -/
def numberEscape (char : Char) : List Char :=
  ['\\', 'u', '\x7b'] ++ Nat.toDigits 16 char.toNat ++ ['\x7d']

/-- A character in a quoted text. -/
def escapeChar (style : QuoteStyle) (isFirst : Bool) (char : Char) : List Char :=
  match char with
  | '\x00' => ['\\', '0']
  | '\t' => ['\\', 't']
  | '\r' => ['\\', 'r']
  | '\n' => ['\\', 'n']
  | '\\' => ['\\', '\\']
  | char =>
    if (char = '"' ∧ style.doubleQuote) ∨ (char = '\x27' ∧ style.singleQuote) then ['\\', char]
    else if isExtender char ∧ (isFirst ∨ style.laterExtenders) then numberEscape char
    else if isPrintable char then [char]
    else numberEscape char

/-- The characters of a text, escaped. -/
def escape (style : QuoteStyle) : List Char → List Char
  | [] => []
  | first :: rest => escapeChar style true first ++ rest.flatMap (escapeChar style false)

/-- A text between double quotes. -/
def quote (text : List Char) : List Char := '"' :: escape .double text ++ ['"']

/-- A character between single quotes. -/
def quoteChar (char : Char) : List Char := '\x27' :: escape .single [char] ++ ['\x27']

end RuleLexer.Text
