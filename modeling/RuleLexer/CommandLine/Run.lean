import RuleLexer.CommandLine.Arguments
import RuleLexer.Document.Table
import RuleLexer.Engine.Tokens
import RuleLexer.File.Folder
import RuleLexer.Language.Basic
import RuleLexer.Settings.Basic
import RuleLexer.Token.Format

/-!
# Runs of the command line

A run tokenizes one file and writes its tokens. First the settings are loaded, then the format is
found, then the table, and the text is read last; the first of these that fails ends the run. The
limits of the run come from the settings, and so does the treatment of line ends unless the settings
leave it to the table.

Logging is not modelled. The program logs to its standard error a warning for each push that is
dropped and for each part that is not handed on at the limit; none of these lines is part of an
outcome.
-/
namespace RuleLexer.CommandLine

/-- Why a run fails. -/
inductive Failure
  | unreadable (path : String) (cause : File.ReadError)
  | settings (cause : SettingsError)
  | table (cause : TableError)
  | format (cause : UnknownFormat)
  | unknownLanguage (name : String)
  | noLanguage (path : String)
  /-- A token does not lie in the text. -/
  | slice (cause : Text.SliceError)
deriving DecidableEq, Repr

def Failure.message : Failure → String
  | unreadable path cause => "cannot read '" ++ path ++ "': " ++ cause.message
  | settings cause => "configuration error: " ++ cause.message
  | table cause => "rule table error: " ++ cause.message
  | format cause => cause.message
  | unknownLanguage name => "unknown language '" ++ name ++ "' (see --list-languages)"
  | noLanguage path =>
    "no language is associated with '" ++ path ++ "'; pass --language or --table"
  | slice cause => cause.message

/-- What a program leaves behind, apart from what it logs on the way. -/
structure Outcome where
  code : Nat
  stdout : String
  /-- The message of the error that ends the run, empty if it ends well. Lines of a log, which go to
  the same place, are left out. -/
  stderr : String
deriving DecidableEq, Repr

def readText (files : File.Files) (path : String) : Except Failure String :=
  (files.readText path).mapError (.unreadable path)

/-! ## Tables -/

/-- Whether a table is written as JSON, by the name of its file. -/
def isJsonPath (path : String) : Bool :=
  (File.extension? path.toList).any fun extension =>
    extension.map Char.toLower == ['j', 's', 'o', 'n']

/-- The table that a text defines. -/
def tableOfText (isJson : Bool) (text : String) : Except TableError RuleTable := do
  let document ← (if isJson then TableDocument.ofJson text else TableDocument.ofYaml text).mapError
    .invalidDefinition
  document.build

def tableOfFile (files : File.Files) (path : String) : Except Failure RuleTable := do
  let text ← readText files path
  (tableOfText (isJsonPath path) text).mapError .table

def tableOfLanguage (language : Language) : Except Failure RuleTable :=
  language.table.mapError .table

/-- The table for a file. -/
def chooseTable (files : File.Files) (path : String) : TableChoice → Except Failure RuleTable
  | .file tablePath => tableOfFile files tablePath
  | .language name =>
    match Language.named? name with
    | some language => tableOfLanguage language
    | none => .error (.unknownLanguage name)
  | .byName =>
    match Language.ofPath? path with
    | some language => tableOfLanguage language
    | none => .error (.noLanguage path)

/-! ## Runs -/

/-- The place of the setting that chooses the format. -/
def formatPath : SettingPath := ⟨"output".toList, [.key "format".toList]⟩

namespace Invocation

def settingsSources (invocation : Invocation) : List SettingsSource :=
  (invocation.config.map fun name => SettingsSource.file name true).toList ++
    (invocation.format.map fun name =>
      SettingsSource.single formatPath (.text name.toList)).toList

/-- The options of a run under settings. -/
def runOptions (settings : Settings) (table : RuleTable) : RunOptions where
  resetOnNewline := settings.resetOnNewline.getD table.options.run.resetOnNewline
  maxStackDepth := settings.maxStackDepth
  maxDelegateDepth := settings.maxDelegateDepth

/-- The tokens of a text, written in a format. -/
def formatTokens (table : RuleTable) (text : List Char) (format : TokenFormat) :
    Except Text.SliceError (List Char) :=
  Token.format (table.tokenize [] text).drain.1 text format

/-- What a run writes. -/
def run (files : File.Files) (invocation : Invocation) : Except Failure String := do
  let settings ← (Settings.load files invocation.settingsSources).mapError .settings
  let format ← (TokenFormat.parse settings.format).mapError .format
  let table ← chooseTable files invocation.path invocation.table
  let text ← readText files invocation.path
  let table := table.withRunOptions (runOptions settings table)
  let written ← (formatTokens table text.toList format).mapError .slice
  return String.ofList written

/-- The paths of all files that a run may read. -/
def paths (invocation : Invocation) : List String :=
  (invocation.config.map Settings.fileNames).getD [] ++
    (match invocation.table with
      | .file path => [path]
      | _ => []) ++
    [invocation.path]

end Invocation

/-! ## Requests -/

def programName : String := "statelex"

def programVersion : String := "0.1.0"

def versionText : String := programName ++ " " ++ programVersion ++ "\n"

def languageLines (language : Language) : String :=
  "  " ++ language.name ++ "\n    aliases: " ++ ", ".intercalate language.aliases ++ "  files: " ++
    ", ".intercalate language.filenames ++ "\n"

def languagesText : String :=
  "Bundled languages:\n\n" ++ String.join (Language.all.map languageLines)

def helpText : String :=
  "Tokenize source files with state-machine regex rule tables\n\n" ++
  "Usage: " ++ programName ++ " [OPTIONS] [path]\n\n" ++
  "Arguments:\n" ++
  "  [path]  Path to the file to tokenize\n\n" ++
  "Options:\n" ++
  "  -l, --language <language>  Bundled language name or alias " ++
    "(default: chosen by file name)\n" ++
  "  -t, --table <table>        Rule table file (.yaml, .yml or .json)\n" ++
  "  -f, --format <format>      Output format: simple, raw or json " ++
    "(default from configuration)\n" ++
  "  -c, --config <config>      Configuration file layered over the built-in defaults\n" ++
  "      --list-languages       List bundled languages\n" ++
  "  -h, --help                 Print help\n" ++
  "  -V, --version              Print version\n"

/-- The paths of all files that a request may read. -/
def Request.paths : Request → List String
  | tokenize invocation => invocation.paths
  | _ => []

/-- What a request leaves behind; the message of an error is all that `stderr` tells. -/
def Request.respond (files : File.Files) : Request → Outcome
  | help => ⟨0, helpText, ""⟩
  | version => ⟨0, versionText, ""⟩
  | listLanguages => ⟨0, languagesText, ""⟩
  | tokenize invocation =>
    match invocation.run files with
    | .ok written => ⟨0, written, ""⟩
    | .error failure => ⟨1, "", "Error: " ++ failure.message ++ "\n"⟩

/-- What the program leaves behind when it is called with arguments. -/
def respond (files : File.Files) (arguments : List String) : Outcome :=
  match Request.parse arguments with
  | .ok request => request.respond files
  | .error error => ⟨2, "", "error: " ++ error.message ++ "\n\n" ++ helpText⟩

end RuleLexer.CommandLine
