import RuleLexer.Document.Entry
import RuleLexer.Document.Json
import RuleLexer.Document.Yaml
import RuleLexer.Json.Reader
import RuleLexer.Table.Build
import RuleLexer.Yaml.Writer

/-!
# Documents of tables

A table can be written as a document in YAML or JSON: its name, its options and its states, each
with a list of entries. The states are kept in the order of their names, whatever their order in the
document, and of two states with one name the later one counts. When the document is turned into the
definition of a table, the root state comes first.
-/
namespace RuleLexer

/-- A table as it is written in a document. -/
structure TableDocument where
  name : String
  options : TableOptions
  /-- In the order of the names, which are all different. -/
  states : List (String × List EntryDocument)
deriving DecidableEq, Repr

namespace TableDocument

/-- Puts a state into its place, instead of one with the same name. -/
def insertState (name : String) (entries : List EntryDocument) :
    List (String × List EntryDocument) → List (String × List EntryDocument)
  | [] => [(name, entries)]
  | (other, old) :: rest =>
    if name = other then (name, entries) :: rest
    else if name < other then (name, entries) :: (other, old) :: rest
    else (other, old) :: insertState name entries rest

/-- Reads a switch, which must be a truth value if it is given. -/
def switch? {ν : Type} [Element ν] (members : List (String × ν)) (name : String)
    (default : Bool) : Option Bool := do
  let value ← Datum.onlyValue? (members.map fun (key, value) => (some key, value)) name
  value.elim (some default) Element.flag?

/-- Reads an option of a run. -/
def runOption? {α : Type} (read : Datum → Option α) (members : List (String × Datum))
    (name : String) (default : α) : Option α := do
  let value ← Datum.onlyValue? (members.map fun (key, value) => (some key, value)) name
  value.elim (some default) read

def switchNames : List String := ["case_insensitive", "dot_matches_newline", "multi_line"]

def patternOptions? {ν : Type} [Element ν] (members : List (String × ν)) :
    Option PatternOptions := do
  return {
    caseInsensitive := ← switch? members "case_insensitive" false
    dotMatchesNewline := ← switch? members "dot_matches_newline" false
    multiLine := ← switch? members "multi_line" true }

def runOptions? (members : List (String × Datum)) : Option RunOptions := do
  return {
    resetOnNewline := ← runOption? Datum.bool? members "reset_on_newline" false
    maxStackDepth := ← runOption? Datum.natural? members "max_stack_depth" 1024
    maxDelegateDepth := ← runOption? Datum.natural? members "max_delegate_depth" 32 }

/-- Reads the options of a table. The value of an option that is not known must at least be data. -/
def options? {ν : Type} [Element ν] (element : ν) : Option TableOptions := do
  let members ← Element.members? element
  let others ← (members.filter fun (key, _) => key ∉ switchNames).mapM fun (key, value) =>
    (Element.datum? (Element.levels ν - 2) value).map fun value => (key, value)
  return ⟨← patternOptions? members, ← runOptions? others⟩

def entries? {ν : Type} [Element ν] (element : ν) : Option (List EntryDocument) := do
  let items ← Element.items? element
  items.mapM fun item => (Element.datum? (Element.levels ν - 3) item).bind EntryDocument.ofDatum?

def states? {ν : Type} [Element ν] (element : ν) :
    Option (List (String × List EntryDocument)) := do
  let members ← Element.members? element
  let states ← members.mapM fun (name, value) => (entries? value).map fun entries => (name, entries)
  return states.foldl (fun states (name, entries) => insertState name entries states) []

/-- Reads a table from a document of any format. -/
def ofElement? {ν : Type} [Element ν] (element : ν) : Option TableDocument := do
  let [some name, options, some states] ← Element.fields? ["name", "options", "states"] element
    | none
  return {
    name := ← Element.text? name
    options := ← options.elim (some {}) options?
    states := ← states? states }

def unreadable : DefinitionError := .unreadable "the document does not describe a table"

def ofJson (text : String) : Except DefinitionError TableDocument :=
  match (Json.read text.toList).bind ofElement? with
  | some document => .ok document
  | none => .error unreadable

def ofYaml (text : String) : Except DefinitionError TableDocument :=
  match (Yaml.Document.read? text.toList).bind fun document => ofElement? document.place with
  | some document => .ok document
  | none => .error unreadable

def optionsDatum (options : TableOptions) : Datum :=
  .ofMembers [
    ("case_insensitive", .bool options.patterns.caseInsensitive),
    ("dot_matches_newline", .bool options.patterns.dotMatchesNewline),
    ("multi_line", .bool options.patterns.multiLine),
    ("reset_on_newline", .bool options.run.resetOnNewline),
    ("max_stack_depth", .natural options.run.maxStackDepth),
    ("max_delegate_depth", .natural options.run.maxDelegateDepth)]

/-- The data that a table is written as. -/
def toDatum (document : TableDocument) : Datum :=
  .ofMembers [
    ("name", .string document.name),
    ("options", optionsDatum document.options),
    ("states", .ofMembers (document.states.map fun (name, entries) =>
      (name, .list (entries.map EntryDocument.toDatum))))]

def toJson (document : TableDocument) : String := Json.writeDatum document.toDatum

def toYaml (document : TableDocument) : String := Yaml.writeDatum document.toDatum

/-- The states with the root state first. -/
def rootFirst (states : List (String × List EntryDocument)) :
    List (String × List EntryDocument) :=
  states.filter (fun (name, _) => name = RuleTable.rootName) ++
    states.filter fun (name, _) => name ≠ RuleTable.rootName

/-- The rules of a state. -/
def stateDef (name : String) (entries : List EntryDocument) : Except DefinitionError StateDef :=
  match entries.mapM EntryDocument.ruleDef with
  | .ok rules => .ok ⟨name, rules⟩
  | .error cause => .error (.entry name cause)

/-- The definition that a document describes. -/
def definition (document : TableDocument) : Except DefinitionError TableDef := do
  let states ← (rootFirst document.states).mapM fun (name, entries) => stateDef name entries
  return ⟨document.name, document.options, states⟩

/-- Builds the table that a document describes; it uses no other tables. -/
def build (document : TableDocument) : Except TableError RuleTable := do
  let definition ← document.definition.mapError .invalidDefinition
  definition.build []

end TableDocument

end RuleLexer
