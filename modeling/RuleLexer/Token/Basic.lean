import RuleLexer.Text.Slice
import RuleLexer.Token.Kind

/-!
# Tokens

A token is a classified part of a text, given by byte offsets. It does not hold the text: asking for
it can fail, because a token may be put together with a text that it was not made from.
-/
namespace RuleLexer

/-- A part of a text, by the offsets of its bytes, and what kind of thing it is. -/
structure Token where
  kind : TokenKind
  start : Nat
  stop : Nat
deriving DecidableEq, Repr

namespace Token

/-- A token that starts at its end or after it is empty. -/
def isEmpty (token : Token) : Bool := token.stop ≤ token.start

def size (token : Token) : Nat := token.stop - token.start

/-- Moves a token by a number of bytes. -/
def shift (offset : Nat) (token : Token) : Token :=
  { token with start := token.start + offset, stop := token.stop + offset }

/-- The part of a text that a token covers. -/
def text (source : List Char) (token : Token) : Except Text.SliceError (List Char) :=
  Text.slice source token.start token.stop

/-- The extent in a message. -/
def extentText (token : Token) : String := toString token.start ++ ".." ++ toString token.stop

/-- A token in a message. -/
def debugText (token : Token) : String :=
  "Token \x7b kind: " ++ token.kind.joinedName ++ ", span: " ++ token.extentText ++ " \x7d"

end Token

end RuleLexer
