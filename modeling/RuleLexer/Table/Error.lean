import RuleLexer.Regex.SourceError
import RuleLexer.Token.Kind

/-!
# Why a definition is no table

All that can be wrong with a table is found while it is built; running a table never fails. An error
about a rule names the state that the rule is written in, which may be included by others.
-/
namespace RuleLexer

/-- Why an entry of a document cannot be turned into a rule. -/
inductive EntryError
  | unknownKind (unknown : UnknownKind)
  /-- A pattern comes with no action or with several. -/
  | actionCount (pattern : String)
  | directiveInList (directive : String)
  | popCount (directive : String)
  | unknownDirective (directive : String)
deriving DecidableEq, Repr

def EntryError.message : EntryError → String
  | unknownKind unknown => unknown.message
  | actionCount pattern =>
    "pattern /" ++ pattern ++ "/ needs exactly one of 'token', 'groups' or 'using'"
  | directiveInList directive => "'" ++ directive ++ "' cannot appear in a list of states"
  | popCount directive => "invalid pop count in '" ++ directive ++ "'"
  | unknownDirective directive => "unknown directive '" ++ directive ++ "'"

/-- Why a definition is refused before its rules are looked at. -/
inductive DefinitionError
  | unreadable (reason : String)
  | entry (state : String) (cause : EntryError)
  | duplicateState (state table : String)
deriving DecidableEq, Repr

def DefinitionError.message : DefinitionError → String
  | unreadable reason => reason
  | entry state cause => "state '" ++ state ++ "': " ++ cause.message
  | duplicateState state table =>
    "state '" ++ state ++ "' is defined twice in table '" ++ table ++ "'"

/-- Why a definition cannot be built into a table. -/
inductive TableError
  | invalidDefinition (cause : DefinitionError)
  | missingRoot (table : String)
  | unknownState (state target : String)
  /-- The library has no entry at the position. -/
  | unknownTable (state : String) (position : Nat)
  /-- Each state of the cycle includes the next one, and the last one is the first again. -/
  | circularInclude (cycle : List String)
  | invalidPattern (state pattern : String) (cause : Regex.SourceError)
  /-- The rule would match the empty text without changing the state. -/
  | emptyMatch (state pattern : String)
  /-- The number of actions is not the number of groups. -/
  | groupArity (state pattern : String) (actions groups : Nat)
deriving DecidableEq, Repr

/-- A pattern and its state in a message. -/
def patternInState (pattern state : String) : String :=
  "pattern /" ++ pattern ++ "/ in state '" ++ state ++ "'"

def TableError.message : TableError → String
  | invalidDefinition cause => "invalid table definition: " ++ cause.message
  | missingRoot table => "table '" ++ table ++ "' has no 'root' state"
  | unknownState state target =>
    "state '" ++ state ++ "' references unknown state '" ++ target ++ "'"
  | unknownTable state position =>
    "state '" ++ state ++ "' references unknown table " ++ toString position
  | circularInclude cycle => "circular include: " ++ " -> ".intercalate cycle
  | invalidPattern state pattern cause =>
    "invalid " ++ patternInState pattern state ++ ": " ++ cause.message
  | emptyMatch state pattern =>
    patternInState pattern state ++ " can match the empty string without changing state"
  | groupArity state pattern actions groups =>
    patternInState pattern state ++ " has " ++ toString groups ++
      " capture groups but bygroups lists " ++ toString actions

end RuleLexer
