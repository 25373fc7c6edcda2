/-!
# Flags

The switches that change how the text of a pattern is read. A pattern may set them for the rest of
the enclosing group, as in `(?i)`, or for one group, as in `(?s-m:…)`; letters after the hyphen
switch off.
-/
namespace RuleLexer.Regex

structure Flags where
  caseInsensitive : Bool
  multiLine : Bool
  dotMatchesNewline : Bool
  /-- Operators are lazy unless followed by a question mark, instead of the reverse. -/
  swapGreed : Bool
  unicode : Bool
  /-- Lines may end in a carriage return as well. -/
  crlf : Bool
  /-- Blanks and comments in the pattern are not part of it. -/
  ignoreBlanks : Bool
deriving DecidableEq, Repr

/-- A flag by its letter, with the change that it makes. -/
def Flags.set? (flags : Flags) (letter : Char) (value : Bool) : Option Flags :=
  match letter with
  | 'i' => some { flags with caseInsensitive := value }
  | 'm' => some { flags with multiLine := value }
  | 's' => some { flags with dotMatchesNewline := value }
  | 'U' => some { flags with swapGreed := value }
  | 'u' => some { flags with unicode := value }
  | 'R' => some { flags with crlf := value }
  | 'x' => some { flags with ignoreBlanks := value }
  | _ => none

end RuleLexer.Regex
