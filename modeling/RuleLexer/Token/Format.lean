import RuleLexer.Json.Writer
import RuleLexer.Token.Json

/-!
# Output formats

Tokens are written with the text that they cover. The two line formats give each token a line of its
own, and escape the text so that it stays on that line. The third format is an array of records.
-/
namespace RuleLexer

/-- How tokens are written. -/
inductive TokenFormat
  /-- `<Kind:text>` on each line. -/
  | simple
  /-- Offset, number of bytes, kind and quoted text on each line. -/
  | raw
  | json
deriving DecidableEq, Repr

/-- A name that no format has. -/
structure UnknownFormat where
  name : String
deriving DecidableEq, Repr

def UnknownFormat.message (unknown : UnknownFormat) : String :=
  "unknown output format '" ++ unknown.name ++ "' (expected one of: simple, raw, json)"

namespace TokenFormat

def all : List TokenFormat := [simple, raw, json]

def name : TokenFormat → String
  | simple => "simple"
  | raw => "raw"
  | json => "json"

/-- Reads the name of a format, in which the case of letters does not matter. -/
def parse (written : String) : Except UnknownFormat TokenFormat :=
  match all.find? fun format => format.name.toList == written.toList.map Char.toLower with
  | some format => .ok format
  | none => .error ⟨written⟩

/-- A line of the simple format. -/
def simpleLine (kind : TokenKind) (text : List Char) : List Char :=
  '<' :: kind.dottedName.toList ++ ':' :: Text.escape .bare text ++ ['>', '\n']

/-- A line of the raw format. -/
def rawLine (token : Token) (text : List Char) : List Char :=
  Nat.toDigits 10 token.start ++ ' ' :: Nat.toDigits 10 token.size ++
    ' ' :: token.kind.dottedName.toList ++ ' ' :: Text.quote text ++ ['\n']

/-- A record of the third format. -/
def record (token : Token) (text : List Char) : Json.Value :=
  .ofMembers [
    ("kind", token.kind.toJson), ("start", .ofNat token.start), ("end", .ofNat token.stop),
    ("text", .ofChars text)]

/-- Tokens with the texts that they cover. -/
def render : TokenFormat → List (Token × List Char) → List Char
  | simple, tokens => tokens.flatMap fun (token, text) => simpleLine token.kind text
  | raw, tokens => tokens.flatMap fun (token, text) => rawLine token text
  | json, tokens =>
    Json.writeIndented (.array (tokens.map fun (token, text) => record token text)) ++ ['\n']

end TokenFormat

/-- Each token with the part of the text that it covers. -/
def Token.withTexts (source : List Char) (tokens : List Token) :
    Except Text.SliceError (List (Token × List Char)) :=
  tokens.mapM fun token => (token.text source).map fun text => (token, text)

/-- Writes tokens with the parts of the text that they cover. -/
def Token.format (tokens : List Token) (source : List Char) (format : TokenFormat) :
    Except Text.SliceError (List Char) :=
  (withTexts source tokens).map format.render

end RuleLexer
