import RuleLexer.Engine.Stack
import RuleLexer.Table.Basic
import RuleLexer.Token.Basic

/-!
# Steps

An engine runs a table over a text. At every step it tries the rules of the state on top of the
stack in order, and the first one that matches at the cursor fires: its action says what becomes of
the matched text, its transition changes the stack, and the cursor moves past the match. If no rule
matches, one character is given up as an error, so a step fails on no text.

A rule may match the empty text and only change the stack. At most `idleLimit` such steps are made
between two moves of the cursor; after that a rule that would match the empty text is passed over.
Each step therefore either moves the cursor or uses up one of the steps that are left at its place.
-/
namespace RuleLexer

/-- A table that runs over a text. -/
structure Engine where
  table : RuleTable
  /-- The characters before the cursor, nearest first. -/
  before : List Char
  /-- The characters from the cursor on. -/
  after : List Char
  /-- The number of bytes before the cursor. -/
  cursor : Nat
  stack : StateStack
  /-- How many tokenizations this one is nested in. -/
  depth : Nat
  /-- The steps since the last move of the cursor. -/
  idle : Nat

/-- What a step puts out: a token, or the whole run of another engine over a part of the text that
begins at an offset. -/
inductive Item
  | token (token : Token)
  | nested (offset : Nat) (engine : Engine)

/-- A part of a match, in bytes from the cursor, and what becomes of it. -/
structure Part where
  start : Nat
  stop : Nat
  action : GroupAction
deriving DecidableEq, Repr

namespace Part

/-- A part, unless it is empty. -/
def nonempty (start stop : Nat) (action : GroupAction) : List Part :=
  if start < stop then [⟨start, stop, action⟩] else []

/-- The parts of a match whose groups have actions, from `covered` on. A part that several groups
match belongs to the first of them, and a part that no group matches is skipped. -/
def ofGroups (covered : Nat) : List (GroupAction × Option Regex.Extent) → Nat → List Part
  | [], stop => nonempty covered stop .skip
  | (_, none) :: rest, stop => ofGroups covered rest stop
  | (action, some extent) :: rest, stop =>
    if extent.stop ≤ covered then ofGroups covered rest stop
    else
      let start := max extent.start covered
      nonempty covered start .skip ++ nonempty start extent.stop action ++
        ofGroups extent.stop rest stop

/-- The parts of a match. -/
def ofMatch (action : Action) (found : Match) : List Part :=
  match action with
  | .token kind => nonempty 0 found.stop (.kind kind)
  | .delegate delegate => nonempty 0 found.stop (.delegate delegate)
  | .byGroups groups => ofGroups 0 (groups.zip found.groups) found.stop

end Part

namespace Engine

/-- The most steps that leave the cursor at its place. -/
def idleLimit : Nat := 32

/-- An engine at the beginning of a text. -/
def start (table : RuleTable) (text : List Char) (state : String) (depth : Nat) : Engine where
  table := table
  before := []
  after := text
  cursor := 0
  stack := .ofBottom state
  depth := depth
  idle := 0

/-- The rules of the state on top of the stack. -/
def rules (engine : Engine) : List Rule := engine.table.rules engine.stack.top

/-- The match of a rule at the cursor, unless it is empty and no empty match is left. -/
def match? (engine : Engine) (rule : Rule) : Option Match :=
  (rule.pattern.matchHere? engine.before engine.after).filter fun found =>
    0 < found.stop || engine.idle < idleLimit

/-- The first rule that fires, and its match. -/
def firing? (engine : Engine) : Option (Rule × Match) :=
  engine.rules.findSome? fun rule => (engine.match? rule).map fun found => (rule, found)

/-- A token over a part of the text, in bytes from the cursor. -/
def tokenOver (engine : Engine) (kind : TokenKind) (start stop : Nat) : Item :=
  .token ⟨kind, engine.cursor + start, engine.cursor + stop⟩

/-- The text of a part, in bytes from the cursor. -/
def textOver (engine : Engine) (start stop : Nat) : List Char :=
  (Text.slice? engine.after start stop).getD []

/-- The engine that a delegate runs over a part of the text. -/
def delegated (library : Library) (engine : Engine) (delegate : Delegate) (start stop : Nat) :
    Engine :=
  let table := (delegate.target.table? library engine.table).getD engine.table
  let state := (delegate.state.filter table.hasState).getD RuleTable.rootName
  .start table (engine.textOver start stop) state (engine.depth + 1)

/-- What is put out for a part. A tokenization that is nested too deeply leaves the part as text. -/
def itemOf (library : Library) (engine : Engine) (part : Part) : Item :=
  match part.action with
  | .kind kind => engine.tokenOver kind part.start part.stop
  | .skip => engine.tokenOver .text part.start part.stop
  | .delegate delegate =>
    if engine.depth < engine.table.options.run.maxDelegateDepth then
      .nested (engine.cursor + part.start)
        (engine.delegated library delegate part.start part.stop)
    else engine.tokenOver .text part.start part.stop

/-- Moves the cursor by a number of bytes. -/
def move (engine : Engine) (count : Nat) : Engine :=
  match Text.splitOnto engine.before engine.after count with
  | some (before, after) =>
    { engine with
      before, after
      cursor := engine.cursor + count
      idle := if count = 0 then engine.idle + 1 else 0 }
  | none => engine

/-- Fires a rule. -/
def fire (library : Library) (engine : Engine) (rule : Rule) (found : Match) :
    List Item × Engine :=
  let items := (Part.ofMatch rule.action found).map (engine.itemOf library)
  let stack := engine.stack.apply engine.table.options.run.maxStackDepth rule.next
  (items, { engine.move found.stop with stack })

/-- Gives up one character. -/
def recover (engine : Engine) : List Item × Engine :=
  match engine.after with
  | [] => ([], engine)
  | char :: _ =>
    let moved := engine.move char.utf8Size
    if char = '\n' ∧ engine.table.options.run.resetOnNewline then
      ([engine.tokenOver .whitespace 0 char.utf8Size], { moved with stack := engine.stack.reset })
    else ([engine.tokenOver .error 0 char.utf8Size], moved)

/-- One step. -/
def step (library : Library) (engine : Engine) : List Item × Engine :=
  match engine.firing? with
  | some (rule, found) => engine.fire library rule found
  | none => engine.recover

end Engine

end RuleLexer
