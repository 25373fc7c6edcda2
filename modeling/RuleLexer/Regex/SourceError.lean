/-!
# Why a text is no pattern

Each error is a cause that the text of a pattern can be refused for. None of them says where in the
text it was found.
-/
namespace RuleLexer.Regex

/-- Why a text is no pattern. -/
inductive SourceError
  | classEscape
  | classRange
  | classUnclosed
  | countInvalid
  | countMissing
  | countUnclosed
  | escapeUnfinished
  | escapeUnknown
  | flagRepeated
  | flagUnknown
  | flagsDangling
  | groupName
  | groupUnclosed
  | groupUnopened
  | hexadecimal
  | lookAround
  | nestedTooDeeply
  | notUtf8
  | operandMissing
  | tooLarge
  | unicodeRequired
  | unknownProperty
  | wordBoundary
deriving DecidableEq, Repr

def SourceError.message : SourceError → String
  | classEscape => "an assertion or a reference stands in a class"
  | classRange => "a range of a class is out of order or has an end that is no character"
  | classUnclosed => "a class is not closed"
  | countInvalid => "the bounds of a repetition are out of order or too large"
  | countMissing => "a repetition has no number"
  | countUnclosed => "the number of a repetition is not closed"
  | escapeUnfinished => "a backslash ends the pattern"
  | escapeUnknown => "a character has no meaning after a backslash"
  | flagRepeated => "a flag is given twice"
  | flagUnknown => "a character is no flag"
  | flagsDangling => "a sign is followed by no flag"
  | groupName => "a group has no name, a bad name or the name of another group"
  | groupUnclosed => "a group is not closed"
  | groupUnopened => "a parenthesis closes no group"
  | hexadecimal => "a hexadecimal number names no character"
  | lookAround => "assertions about the text around are allowed only as a leading look-behind"
  | nestedTooDeeply => "the pattern is nested too deeply"
  | notUtf8 => "the pattern can match bytes that are no text"
  | operandMissing => "a repetition has nothing to repeat"
  | tooLarge => "the compiled pattern is too large"
  | unicodeRequired => "the pattern needs characters where only bytes are allowed"
  | unknownProperty => "no property of characters has the name"
  | wordBoundary => "a word boundary in braces is not known or not closed"

end RuleLexer.Regex
