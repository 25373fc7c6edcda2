import RuleLexer.Token.Kind

/-!
# Rule definitions

A state of a table is written down as a list of entries. An entry is a rule, which has a pattern, an
action for the text that the pattern matches and a transition of the state stack, or it includes
another state: the entries of that state then stand in its place.

An action may hand the matched text, or what one of the groups matched, to a nested tokenization by
the same table or by an earlier one. Earlier tables are entries of a library and are named by their
position in it, so that two actions are equal only if they name the same entry.
-/
namespace RuleLexer

/-- What happens to the state stack after a match. -/
inductive Transition
  | stay
  | push (state : String)
  | pushCurrent
  /-- Takes states off the top, but never the bottom one. -/
  | pop (count : Nat)
  | pushAll (states : List String)
deriving DecidableEq, Repr

/-- The table that a nested tokenization runs. -/
inductive DelegateTarget
  | this
  | entry (position : Nat)
deriving DecidableEq, Repr

/-- A nested tokenization; it starts in the root state unless it names another. -/
structure Delegate where
  target : DelegateTarget
  state : Option String
deriving DecidableEq, Repr

/-- What becomes of the text that a group matched. -/
inductive GroupAction
  | kind (kind : TokenKind)
  | delegate (delegate : Delegate)
  /-- The text is matched but not classified. -/
  | skip
deriving DecidableEq, Repr

/-- What becomes of the text that a pattern matched. -/
inductive Action
  | token (kind : TokenKind)
  | byGroups (groups : List GroupAction)
  | delegate (delegate : Delegate)
deriving DecidableEq, Repr

/-- An entry of a state. -/
inductive RuleDef
  | rule (pattern : String) (action : Action) (next : Transition)
  | includeState (state : String)
deriving DecidableEq, Repr

namespace RuleDef

/-- A rule that stays in its state. -/
def staying (pattern : String) (action : Action) : RuleDef := rule pattern action .stay

/-- A rule that always matches, consumes nothing and only changes the state. -/
def always (next : Transition) : RuleDef := rule "" (.token .text) next

/-- Replaces the transition of a rule; an entry that includes a state has none. -/
def andThen (next : Transition) : RuleDef → RuleDef
  | rule pattern action _ => rule pattern action next
  | includeState state => includeState state

end RuleDef

/-- The entries of a state. -/
structure StateDef where
  name : String
  entries : List RuleDef
deriving DecidableEq, Repr

end RuleLexer
