import RuleLexer.Table.Basic
import RuleLexer.Table.Error

/-!
# Building a table

A definition becomes a table by compiling its rules and splicing included states in. States are
resolved in the order of their definition, and an included state is resolved where it stands, so
that the first error met depth first is the one reported. A state that has been resolved is kept and
not compiled again.

The path of a state is the list of states whose inclusion led to it. A state that is on its own path
includes itself. All states of a path are different, so no path is longer than the number of states.
-/
namespace RuleLexer

/-- A table as it is written down. -/
structure TableDef where
  name : String
  options : TableOptions
  states : List StateDef
deriving DecidableEq, Repr

/-- What the states of a definition are resolved against. -/
structure BuildContext where
  library : Library
  options : PatternOptions
  states : List StateDef

namespace BuildContext

def stateDef? (context : BuildContext) (name : String) : Option StateDef :=
  context.states.find? fun state => state.name == name

def hasState (context : BuildContext) (name : String) : Bool := (context.stateDef? name).isSome

/-- Checks that a state which the rules of another one refer to is defined. -/
def checkState (context : BuildContext) (state target : String) : Except TableError Unit :=
  if context.hasState target then .ok () else .error (.unknownState state target)

/-- Checks that a delegate names a table, and a state of that table if it names one. -/
def checkDelegate (context : BuildContext) (state : String) (delegate : Delegate) :
    Except TableError Unit :=
  match delegate.target with
  | .this =>
    match delegate.state with
    | none => .ok ()
    | some start => context.checkState state start
  | .entry position =>
    match context.library[position]?, delegate.state with
    | none, _ => .error (.unknownTable state position)
    | some _, none => .ok ()
    | some table, some start =>
      if table.hasState start then .ok () else .error (.unknownState state start)

def checkGroup (context : BuildContext) (state : String) : GroupAction → Except TableError Unit
  | .delegate delegate => context.checkDelegate state delegate
  | .kind _ | .skip => .ok ()

/-- Checks the action of a rule whose pattern has been compiled. -/
def checkAction (context : BuildContext) (state : String) (pattern : Pattern) :
    Action → Except TableError Unit
  | .token _ => .ok ()
  | .delegate delegate => context.checkDelegate state delegate
  | .byGroups groups =>
    if groups.length = pattern.groupCount then groups.forM (context.checkGroup state)
    else .error (.groupArity state pattern.source groups.length pattern.groupCount)

def checkTransition (context : BuildContext) (state : String) : Transition → Except TableError Unit
  | .stay | .pushCurrent | .pop _ => .ok ()
  | .push target => context.checkState state target
  | .pushAll targets => targets.forM (context.checkState state)

/-- Compiles a rule of a state. -/
def compileRule (context : BuildContext) (state source : String) (action : Action)
    (next : Transition) : Except TableError Rule :=
  match Pattern.compile context.options source with
  | .error cause => .error (.invalidPattern state source cause)
  | .ok pattern => do
    if pattern.canMatchEmpty ∧ next = .stay then throw (.emptyMatch state source)
    context.checkAction state pattern action
    context.checkTransition state next
    return ⟨pattern, action, next⟩

/-- The rules of the states that have been resolved. -/
abbrev Resolved := List (String × List Rule)

/-- The rules of entries, given a way to resolve the states they include. -/
def expandEntries (context : BuildContext) (state : String)
    (resolve : Resolved → StateDef → Except TableError (List Rule × Resolved)) :
    Resolved → List RuleDef → Except TableError (List Rule × Resolved)
  | resolved, [] => .ok ([], resolved)
  | resolved, .rule source action next :: rest => do
    let rule ← context.compileRule state source action next
    let (rules, resolved) ← expandEntries context state resolve resolved rest
    return (rule :: rules, resolved)
  | resolved, .includeState target :: rest =>
    match context.stateDef? target with
    | none => .error (.unknownState state target)
    | some included => do
      let (front, resolved) ← resolve resolved included
      let (rules, resolved) ← expandEntries context state resolve resolved rest
      return (front ++ rules, resolved)

/-- Resolves a state that is reached by a path of at most `room` further states. -/
def resolveWithin (context : BuildContext) :
    Nat → List String → Resolved → StateDef → Except TableError (List Rule × Resolved)
  | room, path, resolved, state =>
    match resolved.lookup state.name with
    | some rules => .ok (rules, resolved)
    | none =>
      let cycle := path.dropWhile (· != state.name) ++ [state.name]
      if state.name ∈ path then .error (.circularInclude cycle)
      else
        match room with
        | 0 => .error (.circularInclude cycle)
        | room + 1 => do
          let (rules, resolved) ← context.expandEntries state.name
            (resolveWithin context room (path ++ [state.name])) resolved state.entries
          return (rules, (state.name, rules) :: resolved)

/-- Resolves a state that is not reached by including it. -/
def resolve (context : BuildContext) (resolved : Resolved) (state : StateDef) :
    Except TableError (List Rule × Resolved) :=
  context.resolveWithin context.states.length [] resolved state

/-- Resolves states in order. -/
def resolveAll (context : BuildContext) : Resolved → List StateDef → Except TableError (List State)
  | _, [] => .ok []
  | resolved, state :: rest => do
    let (rules, resolved) ← context.resolve resolved state
    let states ← resolveAll context resolved rest
    return ⟨state.name, rules⟩ :: states

end BuildContext

/-- The first name that stands before it in a list. -/
def firstRepeated? : List String → List String → Option String
  | _, [] => none
  | seen, name :: rest => if name ∈ seen then some name else firstRepeated? (name :: seen) rest

/-- Builds the table of a definition. -/
def TableDef.build (library : Library) (definition : TableDef) : Except TableError RuleTable := do
  if let some state := firstRepeated? [] (definition.states.map StateDef.name) then
    throw (.invalidDefinition (.duplicateState state definition.name))
  let context : BuildContext := ⟨library, definition.options.patterns, definition.states⟩
  if !context.hasState RuleTable.rootName then throw (.missingRoot definition.name)
  let states ← context.resolveAll [] definition.states
  return ⟨definition.name, definition.options, states⟩

end RuleLexer
