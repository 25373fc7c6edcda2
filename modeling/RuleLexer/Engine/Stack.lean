import RuleLexer.Rule.Definition

/-!
# State stacks

A stack of state names that is never empty: the bottom is the state that a run was started in, and
no transition takes it away. A push onto a stack that has reached its limit does nothing.
-/
namespace RuleLexer

/-- The bottom of a stack, and the states above it from the top down. -/
structure StateStack where
  bottom : String
  above : List String
deriving DecidableEq, Repr

namespace StateStack

def ofBottom (state : String) : StateStack := ⟨state, []⟩

def top (stack : StateStack) : String := stack.above.headD stack.bottom

def height (stack : StateStack) : Nat := stack.above.length + 1

/-- The states from the bottom up. -/
def toList (stack : StateStack) : List String := stack.bottom :: stack.above.reverse

def push (limit : Nat) (stack : StateStack) (state : String) : StateStack :=
  if stack.height < limit then { stack with above := state :: stack.above } else stack

def pop (stack : StateStack) (count : Nat) : StateStack :=
  { stack with above := stack.above.drop count }

/-- Takes away all but the bottom. -/
def reset (stack : StateStack) : StateStack := ofBottom stack.bottom

def apply (limit : Nat) (stack : StateStack) : Transition → StateStack
  | .stay => stack
  | .push state => stack.push limit state
  | .pushCurrent => stack.push limit stack.top
  | .pop count => stack.pop count
  | .pushAll states => states.foldl (push limit) stack

end StateStack

end RuleLexer
