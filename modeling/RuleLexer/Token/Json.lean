import RuleLexer.Json.Value
import RuleLexer.Token.Basic

/-!
# Tokens in JSON

A token is a record of its kind and its extent, and an extent is a record of its two offsets. A kind
is its dotted name; it may also be written as the only key of an object, with the value `null`.
-/
namespace RuleLexer

def TokenKind.toJson (kind : TokenKind) : Json.Value := .ofString kind.dottedName

def TokenKind.ofJsonText? : Json.Text → Option TokenKind
  | .valid written => ofDottedName? (String.ofList written)
  | .broken => none

def TokenKind.ofJson? : Json.Value → Option TokenKind
  | .string written => ofJsonText? written
  | .object [(written, .null)] => ofJsonText? written
  | _ => none

namespace Token

def toJson (token : Token) : Json.Value :=
  .ofMembers [
    ("kind", token.kind.toJson),
    ("span", .ofMembers [("start", .ofNat token.start), ("end", .ofNat token.stop)])]

/-- The two offsets of an extent; nothing but them may be given. -/
def extentOfJson? (value : Json.Value) : Option (Nat × Nat) :=
  match value.fields? ["start", "end"] true with
  | some [some (.number (.natural start)), some (.number (.natural stop))] => some (start, stop)
  | _ => none

def ofJson? (value : Json.Value) : Option Token :=
  match value.fields? ["kind", "span"] false with
  | some [some kind, some extent] => do
    let kind ← TokenKind.ofJson? kind
    let (start, stop) ← extentOfJson? extent
    return ⟨kind, start, stop⟩
  | _ => none

end Token

end RuleLexer
