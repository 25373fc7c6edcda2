import RuleLexer.Document.Datum
import RuleLexer.Number
import RuleLexer.Rule.Definition
import RuleLexer.Rule.Vocabulary
import RuleLexer.Table.Error

/-!
# Entries of a document

An entry of a state is written in one of four forms, and the first form whose fields fit decides
what it is: it includes a state, it lists words, it gives a pattern, or it only changes the state.
What an entry holds is not looked at before the whole document has been read; names of kinds and
directives that mean nothing are found when the entry is turned into a rule.
-/
namespace RuleLexer

/-- Where to go next: a directive or a state, or states that are pushed one after the other. -/
inductive NextDocument
  | one (target : String)
  | many (states : List String)
deriving DecidableEq, Repr

/-- An entry of a state as it is written in a document. -/
inductive EntryDocument
  | includeState (state : String)
  | words (list : List String) (lead tail : String) (token : String)
      (next : Option NextDocument)
  | pattern (source : String) (token : Option String) (groups : Option (List (Option String)))
      (start : Option String) (next : Option NextDocument)
  | always (next : NextDocument)
deriving DecidableEq, Repr

namespace NextDocument

def ofDatum? : Datum → Option NextDocument
  | .string target => some (.one target)
  | datum => (datum.listOf? Datum.string?).map .many

def toDatum : NextDocument → Datum
  | one target => .string target
  | many states => .ofStrings states

/-- The number after a directive that pops several states. -/
def popCount? (digits : List Char) : Option Nat :=
  let digits := if digits.head? = some '+' then digits.tail else digits
  (Number.ofDigits? 10 digits).filter fun count => 0 < count ∧ count < Nat.pow 2 64

/-- The transition of a directive, or into the state of a name. -/
def targetTransition (target : String) : Except EntryError Transition :=
  match target.toList with
  | ['#', 'p', 'o', 'p'] => .ok (.pop 1)
  | ['#', 'p', 'u', 's', 'h'] => .ok .pushCurrent
  | '#' :: 'p' :: 'o' :: 'p' :: ':' :: digits =>
    match popCount? digits with
    | some count => .ok (.pop count)
    | none => .error (.popCount target)
  | '#' :: _ => .error (.unknownDirective target)
  | _ => .ok (.push target)

def isDirective (target : String) : Bool := target.toList.head? = some '#'

def transition : NextDocument → Except EntryError Transition
  | one target => targetTransition target
  | many states =>
    match states.find? isDirective with
    | some directive => .error (.directiveInList directive)
    | none => .ok (.pushAll states)

/-- The transition of an entry that may say nothing about it. -/
def transitionOf : Option NextDocument → Except EntryError Transition
  | none => .ok .stay
  | some next => next.transition

end NextDocument

namespace EntryDocument

def includeOfDatum? (datum : Datum) : Option EntryDocument := do
  let [some state] ← datum.fields? ["include"] | none
  return .includeState (← state.string?)

/-- A field that may be missing, but may not be written without a value. -/
def orDefault (value : Option Datum) : Option String := value.elim (some "") Datum.string?

/-- A field that may be missing or be written without a value. -/
def orNone {α : Type} (read : Datum → Option α) (value : Option Datum) : Option (Option α) :=
  value.elim (some none) (Datum.optional? read)

def wordsOfDatum? (datum : Datum) : Option EntryDocument := do
  let [some list, lead, tail, some token, next] ←
    datum.fields? ["words", "prefix", "suffix", "token", "next"] | none
  return .words (← list.listOf? Datum.string?) (← orDefault lead) (← orDefault tail)
    (← token.string?) (← orNone NextDocument.ofDatum? next)

def patternOfDatum? (datum : Datum) : Option EntryDocument := do
  let [some source, token, groups, start, next] ←
    datum.fields? ["pattern", "token", "groups", "using", "next"] | none
  return .pattern (← source.string?) (← orNone Datum.string? token)
    (← orNone (Datum.listOf? (Datum.optional? Datum.string?)) groups)
    (← orNone Datum.string? start) (← orNone NextDocument.ofDatum? next)

def alwaysOfDatum? (datum : Datum) : Option EntryDocument := do
  let [some next] ← datum.fields? ["default"] | none
  return .always (← NextDocument.ofDatum? next)

/-- The entry that data describes, in the first form that fits. -/
def ofDatum? (datum : Datum) : Option EntryDocument :=
  includeOfDatum? datum <|> wordsOfDatum? datum <|> patternOfDatum? datum <|> alwaysOfDatum? datum

/-- A field that is written only if it has a value. -/
def member? {α : Type} (name : String) (write : α → Datum) (value : Option α) :
    List (String × Datum) :=
  (value.map fun value => (name, write value)).toList

/-- A field that is written only if its text is not empty. -/
def textMember? (name value : String) : List (String × Datum) :=
  if value.isEmpty then [] else [(name, .string value)]

def groupDatum (group : Option String) : Datum := group.elim .null .string

/-- The data that an entry is written as. -/
def toDatum : EntryDocument → Datum
  | includeState state => .ofMembers [("include", .string state)]
  | .words list lead tail token next => .ofMembers
      ([("words", .ofStrings list)] ++ textMember? "prefix" lead ++ textMember? "suffix" tail ++
        [("token", .string token)] ++ member? "next" NextDocument.toDatum next)
  | .pattern source token groups start next => .ofMembers
      ([("pattern", .string source)] ++ member? "token" Datum.string token ++
        member? "groups" (fun groups => .list (groups.map groupDatum)) groups ++
        member? "using" Datum.string start ++ member? "next" NextDocument.toDatum next)
  | always next => .ofMembers [("default", next.toDatum)]

def parseKind (name : String) : Except EntryError TokenKind :=
  (TokenKind.parse name).mapError .unknownKind

/-- A tokenization by the same table from a state on; the root state need not be named. -/
def delegateFrom (state : String) : Delegate :=
  ⟨.this, if state = "" ∨ state = "root" then none else some state⟩

/-- What becomes of a group. -/
def groupAction : Option String → Except EntryError GroupAction
  | none => .ok .skip
  | some directive =>
    match directive.toList with
    | ['#', 'u', 's', 'i', 'n', 'g'] => .ok (.delegate (delegateFrom ""))
    | '#' :: 'u' :: 's' :: 'i' :: 'n' :: 'g' :: ':' :: state =>
      .ok (.delegate (delegateFrom (String.ofList state)))
    | _ => (parseKind directive).map .kind

/-- The action of a pattern, which must be given in exactly one way. -/
def patternAction (source : String) :
    Option String → Option (List (Option String)) → Option String → Except EntryError Action
  | some token, none, none => (parseKind token).map .token
  | none, some groups, none => (groups.mapM groupAction).map .byGroups
  | none, none, some state => .ok (.delegate (delegateFrom state))
  | _, _, _ => .error (.actionCount source)

/-- The rule of an entry. The action is looked at before the transition. -/
def ruleDef : EntryDocument → Except EntryError RuleDef
  | includeState state => .ok (.includeState state)
  | .words list lead tail token next => do
    let kind ← parseKind token
    let next ← NextDocument.transitionOf next
    return .rule (Vocabulary.pattern ⟨list, lead, tail⟩) (.token kind) next
  | .pattern source token groups start next => do
    let action ← patternAction source token groups start
    let next ← NextDocument.transitionOf next
    return .rule source action next
  | always next => do
    let next ← next.transition
    return .always next

end EntryDocument

end RuleLexer
