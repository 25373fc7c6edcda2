/-!
# Places in a YAML document

Indentation is part of the syntax of YAML, so a place in a document is the text that is left
together with the line and the column. A line ends with a line feed, a carriage return, both in this
order, or one of three separators of Unicode.
-/
namespace RuleLexer.Yaml

def isBreak (char : Char) : Bool :=
  char = '\n' || char = '\r' || char = '\u0085' || char = '\u2028' || char = '\u2029'

def isBlank (char : Char) : Bool := char = ' ' || char = '\t'

/-- Whether a character can be part of the name of an anchor or of a directive. -/
def isWordChar (char : Char) : Bool := char.isAlphanum || char = '_' || char = '-'

/-- Whether a document can hold a character. -/
def isAllowed (char : Char) : Bool :=
  char = '\t' || char = '\n' || char = '\r' || char = '\u0085' ||
    (0x20 ≤ char.toNat && char.toNat ≤ 0x7E) || (0xA0 ≤ char.toNat && char.toNat ≤ 0xFFFD &&
      char.toNat ≠ 0xFEFF) || 0x10000 ≤ char.toNat

/-- What a line end is read as: the separators of Unicode stand for themselves. -/
def breakText (char : Char) : Char :=
  if char = '\u2028' ∨ char = '\u2029' then char else '\n'

structure Cursor where
  rest : List Char
  /-- The number of characters passed. -/
  index : Nat
  line : Nat
  column : Nat

namespace Cursor

def ofText (text : List Char) : Cursor := ⟨text, 0, 0, 0⟩

def peek? (cursor : Cursor) : Option Char := cursor.rest.head?

def peekIs (cursor : Cursor) (char : Char) : Bool := cursor.rest.head? = some char

def atEnd (cursor : Cursor) : Bool := cursor.rest.isEmpty

/-- Whether the character at a distance is a blank. -/
def blankAt (cursor : Cursor) (distance : Nat) : Bool := (cursor.rest[distance]?).any isBlank

def breakAt (cursor : Cursor) (distance : Nat) : Bool := (cursor.rest[distance]?).any isBreak

/-- Whether the text ends, or the line ends, or a blank stands at a distance. -/
def gapAt (cursor : Cursor) (distance : Nat) : Bool :=
  (cursor.rest[distance]?).all fun char => isBlank char || isBreak char

/-- Passes a character that ends no line. -/
def skip (cursor : Cursor) : Cursor :=
  { cursor with
    rest := cursor.rest.tail
    index := cursor.index + 1
    column := cursor.column + 1 }

def skipMany (cursor : Cursor) (count : Nat) : Cursor :=
  { cursor with
    rest := cursor.rest.drop count
    index := cursor.index + count
    column := cursor.column + count }

/-- Passes a line end. -/
def skipBreak (cursor : Cursor) : Cursor :=
  let size := if "\r\n".toList.isPrefixOf cursor.rest then 2 else 1
  ⟨cursor.rest.drop size, cursor.index + size, cursor.line + 1, 0⟩

/-- Passes characters of a class, none of which ends a line. -/
def skipWhile (cursor : Cursor) (test : Char → Bool) : Cursor :=
  cursor.skipMany (cursor.rest.takeWhile test).length

/-- Whether the document is cut by three hyphens or three dots at the beginning of a line. -/
def atDocumentMark (cursor : Cursor) : Bool :=
  cursor.column = 0 &&
    ("---".toList.isPrefixOf cursor.rest || "...".toList.isPrefixOf cursor.rest) &&
    cursor.gapAt 3

end Cursor

end RuleLexer.Yaml
