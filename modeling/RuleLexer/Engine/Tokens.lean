import RuleLexer.Engine.Step

/-!
# Token streams

The tokens of a text are found when they are asked for. An engine makes a step only when everything
that the steps before it put out has been delivered, so whoever stops early pays for nothing that
comes after the last token delivered, and can see from the cursor and the stack how far the engine
has come.

A stream has one frame for the text itself and one for each nested tokenization that is under way.
The innermost frame delivers until it is drained; then the frame around it goes on. The offsets of a
nested tokenization count from where its part of the text begins, which is the base of its frame.

Every move of a stream uses up some of a bounded amount of work: a step that leaves the cursor in
place uses up one of the idle steps left, and a step that moves the cursor leaves fewer characters,
which pay for what it puts out and for nested tokenizations, since these are at most as many
characters long and one level closer to the deepest level allowed.
-/
namespace RuleLexer

/-- An engine, what its last step put out and is not delivered yet, and where its text begins. -/
structure Frame where
  base : Nat
  engine : Engine
  pending : List Item

/-- What a frame does when it is asked for a token. -/
inductive Move
  | deliver (token : Token) (rest : Frame)
  | enter (inner rest : Frame)
  | work (rest : Frame)
  | drained

namespace Frame

def ofEngine (base : Nat) (engine : Engine) : Frame := ⟨base, engine, []⟩

def move (library : Library) (frame : Frame) : Move :=
  match frame.pending with
  | .token token :: rest => .deliver (token.shift frame.base) { frame with pending := rest }
  | .nested offset engine :: rest =>
    .enter (ofEngine (frame.base + offset) engine) { frame with pending := rest }
  | [] =>
    if frame.engine.after.isEmpty then .drained
    else
      let (items, engine) := frame.engine.step library
      .work { frame with engine, pending := items }

end Frame

/-- The tokens that are still to be delivered. -/
structure Tokens where
  library : Library
  outer : Frame
  /-- The nested tokenizations under way, the innermost first. -/
  inner : List Frame
  /-- More moves than it takes to deliver all tokens. -/
  budget : Nat

namespace Tokens

/-- The deepest level on which a nested tokenization can run. -/
def deepest (library : Library) (table : RuleTable) : Nat :=
  (library.map fun entry => entry.options.run.maxDelegateDepth).foldl max
    table.options.run.maxDelegateDepth

/-- The moves that each character pays for on each level. -/
def movesPerChar : Nat := 70

/-- A bound on the moves that it takes to drain an engine at the beginning of a text. -/
def workBound (library : Library) (table : RuleTable) (text : List Char) : Nat :=
  text.length * movesPerChar * (deepest library table + 1) + Engine.idleLimit + 1

/-- The tokens of a text from a state on. -/
def start (library : Library) (table : RuleTable) (text : List Char) (state : String) : Tokens where
  library := library
  outer := .ofEngine 0 (.start table text state 0)
  inner := []
  budget := workBound library table text

/-- The byte offset of the next character that the outer engine has not consumed. -/
def cursor (tokens : Tokens) : Nat := tokens.outer.engine.cursor

/-- The state stack of the outer engine, from the bottom up. -/
def stateStack (tokens : Tokens) : List String := tokens.outer.engine.stack.toList

/-- The innermost frame. -/
def current (tokens : Tokens) : Frame := tokens.inner.headD tokens.outer

/-- Puts a frame in the place of the innermost one. -/
def withCurrent (tokens : Tokens) (frame : Frame) : Tokens :=
  match tokens.inner with
  | [] => { tokens with outer := frame }
  | _ :: rest => { tokens with inner := frame :: rest }

/-- The next token, if it takes at most a number of moves to find it. -/
def nextWithin : Nat → Tokens → Option Token × Tokens
  | 0, tokens => (none, tokens)
  | moves + 1, tokens =>
    match tokens.current.move tokens.library with
    | .deliver token rest => (some token, tokens.withCurrent rest)
    | .work rest => nextWithin moves (tokens.withCurrent rest)
    | .enter inner rest =>
      let tokens := tokens.withCurrent rest
      nextWithin moves { tokens with inner := inner :: tokens.inner }
    | .drained =>
      match tokens.inner with
      | [] => (none, tokens)
      | _ :: rest => nextWithin moves { tokens with inner := rest }

/-- The next token, and the stream after it. -/
def next (tokens : Tokens) : Option Token × Tokens := nextWithin tokens.budget tokens

/-- At most a number of tokens, and the stream after them. -/
def take : Nat → Tokens → List Token × Tokens
  | 0, tokens => ([], tokens)
  | count + 1, tokens =>
    match tokens.next with
    | (none, tokens) => ([], tokens)
    | (some token, tokens) =>
      let (rest, tokens) := take count tokens
      (token :: rest, tokens)

/-- All tokens that are left, and the stream after them. -/
def drain (tokens : Tokens) : List Token × Tokens := tokens.take tokens.budget

end Tokens

namespace RuleTable

/-- The tokens of a text from a state on. -/
def tokenizeFrom (library : Library) (table : RuleTable) (text : List Char) (state : String) :
    Tokens :=
  .start library table text state

/-- The tokens of a text from the root state on. -/
def tokenize (library : Library) (table : RuleTable) (text : List Char) : Tokens :=
  table.tokenizeFrom library text rootName

end RuleTable

end RuleLexer
