import RuleLexer.Unicode.Shorthand

/-!
# Assertions about a place in a text

An assertion consumes nothing and asks about the two characters around a place. That is all it can
see, which is why a matcher needs to carry only one character of what lies behind it.
-/
namespace RuleLexer.Regex

/-- The characters right before and right after a place; none at an end of the text. -/
structure Around where
  previous : Option Char
  next : Option Char

/-- Which characters make up words. -/
inductive WordScope
  | ascii
  | unicode
deriving DecidableEq, Repr

def WordScope.holds (scope : WordScope) (char : Char) : Bool :=
  match scope with
  | .ascii => char.isAlphanum || char = '_'
  | .unicode => Unicode.Shorthand.word.contains char

inductive Assertion
  | textStart
  | textEnd
  | lineStart
  | lineEnd
  /-- Lines end in a carriage return, a line feed, or both in this order. -/
  | lineStartCrlf
  | lineEndCrlf
  | wordEdge (scope : WordScope)
  | noWordEdge (scope : WordScope)
  | wordStart (scope : WordScope)
  | wordEnd (scope : WordScope)
  /-- No word character stands before the place. -/
  | wordStartHalf (scope : WordScope)
  /-- No word character stands after the place. -/
  | wordEndHalf (scope : WordScope)
deriving DecidableEq, Repr

/-- Whether a character is there and belongs to a word. -/
def WordScope.at (scope : WordScope) (char : Option Char) : Bool := char.any scope.holds

def Assertion.holds (assertion : Assertion) (around : Around) : Bool :=
  match assertion with
  | .textStart => around.previous.isNone
  | .textEnd => around.next.isNone
  | .lineStart => around.previous.all (· = '\n')
  | .lineEnd => around.next.all (· = '\n')
  | .lineStartCrlf =>
    around.previous.all fun char => char = '\n' || (char = '\r' && around.next != some '\n')
  | .lineEndCrlf =>
    around.next.all fun char => char = '\r' || (char = '\n' && around.previous != some '\r')
  | .wordEdge scope => scope.at around.previous != scope.at around.next
  | .noWordEdge scope => scope.at around.previous == scope.at around.next
  | .wordStart scope => !scope.at around.previous && scope.at around.next
  | .wordEnd scope => scope.at around.previous && !scope.at around.next
  | .wordStartHalf scope => !scope.at around.previous
  | .wordEndHalf scope => !scope.at around.next

end RuleLexer.Regex
