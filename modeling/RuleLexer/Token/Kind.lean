/-!
# Kinds of tokens

The kinds form a small tree, written with dotted names: `Comment.Single` is a kind of `Comment`.
Text that a rule matches but does not classify has the kind `Text`, which is the top of the tree. A
kind that a reader does not know can be replaced by its parent.
-/
namespace RuleLexer

/-- What a token can be. -/
inductive TokenKind
  | text
  | whitespace
  | error
  | other
  | keyword
  | keywordConstant
  | keywordDeclaration
  | keywordType
  | name
  | nameAttribute
  | nameBuiltin
  | nameFunction
  | nameVariable
  | literal
  | string
  | stringEscape
  | number
  | numberFloat
  | numberInteger
  | operator
  | operatorWord
  | punctuation
  | comment
  | commentSingle
  | commentMultiline
  | commentPreproc
deriving DecidableEq, Repr

/-- A name that no kind has. -/
structure UnknownKind where
  name : String
deriving DecidableEq, Repr

def UnknownKind.message (unknown : UnknownKind) : String :=
  "unknown token kind '" ++ unknown.name ++ "'"

namespace TokenKind

/-- Every kind, in the order in which they are listed and numbered. -/
def all : List TokenKind :=
  [text, whitespace, error, other,
    keyword, keywordConstant, keywordDeclaration, keywordType,
    name, nameAttribute, nameBuiltin, nameFunction, nameVariable,
    literal, string, stringEscape, number, numberFloat, numberInteger,
    operator, operatorWord, punctuation,
    comment, commentSingle, commentMultiline, commentPreproc]

/-- The words of the dotted name. -/
def words : TokenKind → List String
  | text => ["Text"]
  | whitespace => ["Whitespace"]
  | error => ["Error"]
  | other => ["Other"]
  | keyword => ["Keyword"]
  | keywordConstant => ["Keyword", "Constant"]
  | keywordDeclaration => ["Keyword", "Declaration"]
  | keywordType => ["Keyword", "Type"]
  | name => ["Name"]
  | nameAttribute => ["Name", "Attribute"]
  | nameBuiltin => ["Name", "Builtin"]
  | nameFunction => ["Name", "Function"]
  | nameVariable => ["Name", "Variable"]
  | literal => ["Literal"]
  | string => ["String"]
  | stringEscape => ["String", "Escape"]
  | number => ["Number"]
  | numberFloat => ["Number", "Float"]
  | numberInteger => ["Number", "Integer"]
  | operator => ["Operator"]
  | operatorWord => ["Operator", "Word"]
  | punctuation => ["Punctuation"]
  | comment => ["Comment"]
  | commentSingle => ["Comment", "Single"]
  | commentMultiline => ["Comment", "Multiline"]
  | commentPreproc => ["Comment", "Preproc"]

/-- The name with its words joined by dots, which stands for the kind in tables and in output. -/
def dottedName (kind : TokenKind) : String := ".".intercalate kind.words

/-- The name in one word, which stands for the kind where a value is shown for debugging. -/
def joinedName (kind : TokenKind) : String := "".intercalate kind.words

/-- The kind that encloses another; only `text` has none. -/
def parent? : TokenKind → Option TokenKind
  | text => none
  | keywordConstant | keywordDeclaration | keywordType => some keyword
  | nameAttribute | nameBuiltin | nameFunction | nameVariable => some name
  | string | number => some literal
  | stringEscape => some string
  | numberFloat | numberInteger => some number
  | operatorWord => some operator
  | commentSingle | commentMultiline | commentPreproc => some comment
  | _ => some text

/-- A kind and the first kinds that enclose it, from the inside out. -/
def lineageWithin : Nat → TokenKind → List TokenKind
  | 0, _ => []
  | steps + 1, kind => kind :: (kind.parent?.map (lineageWithin steps)).getD []

/-- A kind and all kinds that enclose it, from the inside out. -/
def lineage (kind : TokenKind) : List TokenKind := lineageWithin all.length kind

/-- Whether a kind is another one or is enclosed by it. -/
def isSubkindOf (kind ancestor : TokenKind) : Bool := kind.lineage.contains ancestor

def ofDottedName? (name : String) : Option TokenKind :=
  all.find? fun kind => kind.dottedName == name

/-- Reads a dotted name, which may start at the root of all tokens. -/
def parse (written : String) : Except UnknownKind TokenKind :=
  let relative := match written.toList with
    | 'T' :: 'o' :: 'k' :: 'e' :: 'n' :: '.' :: rest => String.ofList rest
    | _ => written
  match ofDottedName? relative with
  | some kind => .ok kind
  | none => .error ⟨written⟩

end TokenKind

end RuleLexer
