import RuleLexer.Pattern
import RuleLexer.Rule.Definition

/-!
# Rule tables

A table is a list of states, and a state is a list of rules that are tried in order. Included states
have been spliced in, so the rules are all that is left of the entries. States are known by their
names; the position of a state in the table is its number.

The switches of the patterns take effect while a table is built. The limits and the treatment of
line ends take effect while it runs, and can be replaced in a table that has been built.
-/
namespace RuleLexer

/-- What a run of a table depends on besides its rules. -/
structure RunOptions where
  /-- A line end that no rule matches is whitespace and empties the stack down to its bottom. -/
  resetOnNewline : Bool := false
  maxStackDepth : Nat := 1024
  maxDelegateDepth : Nat := 32
deriving DecidableEq, Repr

/-- The options that a table is defined with. -/
structure TableOptions where
  patterns : PatternOptions := {}
  run : RunOptions := {}
deriving DecidableEq, Repr

/-- A rule whose pattern has been compiled. -/
structure Rule where
  pattern : Pattern
  action : Action
  next : Transition

instance : BEq Rule := ⟨fun left right =>
  left.pattern == right.pattern && left.action == right.action && left.next == right.next⟩

structure State where
  name : String
  rules : List Rule

/-- A table that has been built: its states in the order of their definition, each with all its
rules. -/
structure RuleTable where
  name : String
  options : TableOptions
  states : List State

/-- Tables that later tables can hand text to. -/
abbrev Library := List RuleTable

namespace RuleTable

/-- The name of the state that a tokenization starts in. -/
def rootName : String := "root"

def state? (table : RuleTable) (name : String) : Option State :=
  table.states.find? fun state => state.name == name

/-- The number of a state. -/
def stateId? (table : RuleTable) (name : String) : Option Nat :=
  table.states.findIdx? fun state => state.name == name

def hasState (table : RuleTable) (name : String) : Bool := (table.state? name).isSome

/-- The rules of a state; a name that no state has stands for a state without rules. -/
def rules (table : RuleTable) (name : String) : List Rule :=
  (table.state? name).elim [] State.rules

/-- The same rules with other options for running them. -/
def withRunOptions (table : RuleTable) (run : RunOptions) : RuleTable :=
  { table with options := { table.options with run } }

end RuleTable

/-- The table that a nested tokenization of a table runs. -/
def DelegateTarget.table? (library : Library) (running : RuleTable) :
    DelegateTarget → Option RuleTable
  | .this => some running
  | .entry position => library[position]?

end RuleLexer
