import RuleLexer.Token.Basic

/-!
# Checks of token streams

What a test says about the tokens of a text: that they cover it, that none is an error, how many
they are, and what kind and text some of them have. A check that fails says why and lists the
tokens. The list shows the text of every token, so a token that covers no part of the text is
reported in place of the failure.
-/
namespace RuleLexer

/-- Why a check failed. -/
inductive CheckFailure
  /-- A message with the list of all tokens. -/
  | message (text : String)
  /-- Two values that should be the same, and perhaps a message. -/
  | different (text : Option String) (left right : String)
  | noSlice (cause : Text.SliceError)

def CheckFailure.text : CheckFailure → String
  | message text => text
  | different text left right =>
    "assertion `left == right` failed" ++ text.elim "" (": " ++ ·) ++ "\n  left: " ++ left ++
      "\n right: " ++ right
  | noSlice cause => cause.message

/-- The result of a check. -/
abbrev Checked := Except CheckFailure

/-- Tokens together with the text that they are about. -/
structure TokenCheck where
  source : List Char
  tokens : List Token

namespace TokenCheck

def quoteText (text : List Char) : String := String.ofList (Text.quote text)

/-- The text of a token. -/
def textOf (check : TokenCheck) (token : Token) : Checked (List Char) :=
  (token.text check.source).mapError .noSlice

/-- A line for each token. -/
def summary (check : TokenCheck) : Checked String := do
  let lines ← check.tokens.mapM fun token => do
    let text ← check.textOf token
    return "  " ++ token.extentText ++ " " ++ token.kind.dottedName ++ " " ++ quoteText text
  return "\n".intercalate lines

/-- Fails with a message and the list of the tokens. -/
def fail (check : TokenCheck) (text : String) : Checked Unit := do
  let summary ← check.summary
  throw (.message (text ++ "\n" ++ summary))

/-- Fails with a message and the list of the tokens, and shows two values. -/
def failDifferent (check : TokenCheck) (text left right : String) : Checked Unit := do
  let summary ← check.summary
  throw (.different (some (text ++ "\n" ++ summary)) left right)

/-- Checks that tokens from the one with number `index` on are not empty and follow one another
without gaps from `expected` on, and gives back where they end. -/
def checkContiguous (check : TokenCheck) (index expected : Nat) : List Token → Checked Nat
  | [] => return expected
  | token :: rest => do
    if token.isEmpty then
      check.fail ("token " ++ toString index ++ " is empty: " ++ token.debugText)
    if token.start ≠ expected then
      check.failDifferent
        ("token " ++ toString index ++ " starts at " ++ toString token.start ++ ", expected " ++
          toString expected)
        (toString token.start) (toString expected)
    checkContiguous check (index + 1) token.stop rest

/-- Checks that the tokens are not empty and cover the text from its beginning to its end, each byte
once. -/
def coversSource (check : TokenCheck) : Checked Unit := do
  let stop ← check.checkContiguous 0 0 check.tokens
  let size := Text.byteLength check.source
  if stop ≠ size then
    check.failDifferent
      ("tokens end at " ++ toString stop ++ ", source has " ++ toString size ++ " bytes")
      (toString stop) (toString size)
  let texts ← check.tokens.mapM check.textOf
  if texts.flatten ≠ check.source then
    throw (.different none (quoteText texts.flatten) (quoteText check.source))

/-- Checks that no token is an error. -/
def noErrors (check : TokenCheck) : Checked Unit := do
  if let some token := check.tokens.find? fun token => token.kind = .error then
    let text ← check.textOf token
    check.fail ("unexpected error token " ++ quoteText text ++ " at " ++ toString token.start)

def count (check : TokenCheck) (expected : Nat) : Checked Unit := do
  if check.tokens.length ≠ expected then
    check.failDifferent
      ("expected " ++ toString expected ++ " tokens, found " ++ toString check.tokens.length)
      (toString check.tokens.length) (toString expected)

/-- Checks the kind and the text of the token with a number. -/
def token (check : TokenCheck) (index : Nat) (kind : TokenKind) (text : List Char) :
    Checked Unit := do
  match check.tokens[index]? with
  | none =>
    check.fail
      ("token index " ++ toString index ++ " out of bounds (" ++ toString check.tokens.length ++
        " tokens)")
  | some token =>
    let found ← check.textOf token
    if (token.kind, found) ≠ (kind, text) then
      check.failDifferent ("token " ++ toString index ++ " mismatch")
        ("(" ++ token.kind.joinedName ++ ", " ++ quoteText found ++ ")")
        ("(" ++ kind.joinedName ++ ", " ++ quoteText text ++ ")")

/-- Whether one of the tokens has a kind and a text. -/
def anyToken (check : TokenCheck) (kind : TokenKind) (text : List Char) :
    List Token → Checked Bool
  | [] => return false
  | token :: rest => do
    if token.kind = kind then
      let found ← check.textOf token
      if found = text then return true
    anyToken check kind text rest

/-- Checks that some token has a kind and a text. -/
def contains (check : TokenCheck) (kind : TokenKind) (text : List Char) : Checked Unit := do
  let found ← check.anyToken kind text check.tokens
  if !found then
    check.fail ("no " ++ kind.dottedName ++ " token with text " ++ quoteText text)

/-- Checks that every token with a text has a kind. -/
def allWithText (check : TokenCheck) (text : List Char) (kind : TokenKind) : Checked Unit :=
  check.tokens.forM fun token => do
    let found ← check.textOf token
    if found = text ∧ token.kind ≠ kind then
      check.failDifferent
        (quoteText text ++ " at " ++ toString token.start ++ " is " ++ token.kind.dottedName ++
          ", expected " ++ kind.dottedName)
        token.kind.joinedName kind.joinedName

/-- The kind and the text of each token. -/
def kinds (check : TokenCheck) : Checked (List (TokenKind × List Char)) :=
  check.tokens.mapM fun token => (check.textOf token).map fun text => (token.kind, text)

end TokenCheck

end RuleLexer
