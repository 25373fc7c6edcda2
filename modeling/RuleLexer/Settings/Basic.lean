import RuleLexer.File.Folder
import RuleLexer.Settings.Path
import RuleLexer.Toml.Document

/-!
# Settings

The settings of the command line come in layers. The defaults lie at the bottom; then come files,
each over the ones before it, and at the top single settings, which lie over all files wherever they
are given. Only the final tree must make sense, so what is wrong in one layer does not matter if a
later one replaces it.
-/
namespace RuleLexer

/-- The settings of the command line. -/
structure Settings where
  maxStackDepth : Nat := 1024
  maxDelegateDepth : Nat := 32
  /-- None leaves the choice to each table. -/
  resetOnNewline : Option Bool := none
  format : String := "simple"
deriving DecidableEq, Repr

/-- Where settings come from. -/
inductive SettingsSource
  /-- A file, which must be there if it is required. -/
  | file (name : String) (required : Bool)
  | single (path : SettingPath) (value : SettingTree)

/-- Why sources do not give settings. -/
inductive SettingsError
  | invalidPath (path : String)
  | unreadable (name : String) (cause : File.ReadError)
  | malformed (name : String)
  /-- A setting has a value that cannot mean what it must mean. -/
  | wrongType (setting expected : String)
  /-- A group of settings is a single value, or lacks a setting. -/
  | wrongShape (setting : String)
deriving DecidableEq, Repr

def SettingsError.message : SettingsError → String
  | invalidPath path => "invalid path '" ++ path ++ "'"
  | unreadable name cause => "cannot read '" ++ name ++ "': " ++ cause.message
  | malformed name => "'" ++ name ++ "' is not a TOML document"
  | wrongType setting expected => "setting '" ++ setting ++ "' is not " ++ expected
  | wrongShape setting => "setting '" ++ setting ++ "' is missing or misplaced"

/-- Reads a path of a single setting. -/
def SettingPath.parse (text : String) : Except SettingsError SettingPath :=
  match parse? text.toList with
  | some path => .ok path
  | none => .error (.invalidPath text)

namespace Settings

/-- The tree that stands for settings. -/
def toTree (settings : Settings) : SettingTree :=
  .table [
    ("tokenizer".toList, .table (
      [("max_stack_depth".toList, .integer settings.maxStackDepth),
        ("max_delegate_depth".toList, .integer settings.maxDelegateDepth)] ++
      (settings.resetOnNewline.map fun reset =>
        ("reset_on_newline".toList, SettingTree.bool reset)).toList)),
    ("output".toList, .table [("format".toList, .text settings.format.toList)])]

/-! ## Reading a tree -/

/-- A part of a group that must be there. -/
def required {α : Type} (name expected : String) (read : SettingTree → Option α) :
    Option SettingTree → Except SettingsError α
  | none => .error (.wrongShape name)
  | some tree =>
    match read tree with
    | some value => .ok value
    | none => .error (.wrongType name expected)

/-- A part of a group that may be left out. -/
def optional {α : Type} (name expected : String) (read : SettingTree → Option α) :
    Option SettingTree → Except SettingsError (Option α)
  | none | some .nothing => .ok none
  | tree => (required name expected read tree).map some

/-- The parts of a group that must be there. -/
def group (name : String) (names : List String) (tree : Option SettingTree) :
    Except SettingsError (List (Option SettingTree)) :=
  match tree.bind (SettingTree.parts? (names.map String.toList)) with
  | some parts => .ok parts
  | none => .error (.wrongShape name)

/-- The part of a group in a place. -/
def part (parts : List (Option SettingTree)) (place : Nat) : Option SettingTree :=
  (parts[place]?).join

def ofTree (tree : SettingTree) : Except SettingsError Settings := do
  let groups ← group "settings" ["tokenizer", "output"] tree
  let tokenizer ← group "tokenizer"
    ["max_stack_depth", "max_delegate_depth", "reset_on_newline"] (part groups 0)
  let maxStackDepth ← required "max_stack_depth" "a natural number" SettingTree.natural?
    (part tokenizer 0)
  let maxDelegateDepth ← required "max_delegate_depth" "a natural number" SettingTree.natural?
    (part tokenizer 1)
  let resetOnNewline ← optional "reset_on_newline" "a truth value" SettingTree.flag?
    (part tokenizer 2)
  let output ← group "output" ["format"] (part groups 1)
  let format ← required "format" "a text" SettingTree.text? (part output 0)
  return { maxStackDepth, maxDelegateDepth, resetOnNewline, format := String.ofList format }

/-! ## Layers -/

/-- Names under which a file of settings is looked for, the first that is there counting. -/
def fileNames (name : String) : List String :=
  name :: ((File.withExtension? name.toList "toml".toList).map String.ofList).toList

/-- The text of the first file that is there. -/
def readFirst (files : File.Files) : List String → Except File.ReadError String
  | [] => .error .missing
  | name :: others =>
    match files.readText name with
    | .error .missing | .error .notADirectory | .error .isADirectory => readFirst files others
    | result => result

/-- Lays the entries of a document over a tree. Their keys are paths. -/
def layDocument (entries : List (List Char × Toml.Value)) (tree : SettingTree) : SettingTree :=
  entries.foldl
    (fun tree (key, value) => tree.put (SettingPath.ofKey key) (SettingTree.ofToml value)) tree

def layFile (files : File.Files) (name : String) (required : Bool) (tree : SettingTree) :
    Except SettingsError SettingTree :=
  match readFirst files (fileNames name) with
  | .ok text =>
    match Toml.read text.toList with
    | some entries => .ok (layDocument entries tree)
    | none => .error (.malformed name)
  | .error cause => if required then .error (.unreadable name cause) else .ok tree

/-- Lays all files over a tree. -/
def layFiles (files : File.Files) (sources : List SettingsSource) (tree : SettingTree) :
    Except SettingsError SettingTree :=
  sources.foldlM
    (fun tree source =>
      match source with
      | .file name required => layFile files name required tree
      | .single _ _ => .ok tree)
    tree

/-- Puts all single settings into a tree. -/
def putSingles (sources : List SettingsSource) (tree : SettingTree) : SettingTree :=
  sources.foldl
    (fun tree source =>
      match source with
      | .file _ _ => tree
      | .single path value => tree.put path value)
    tree

/-- The settings that sources give over the defaults. -/
def load (files : File.Files) (sources : List SettingsSource) : Except SettingsError Settings := do
  let tree ← layFiles files sources ({} : Settings).toTree
  ofTree (putSingles sources tree)

end Settings

end RuleLexer
