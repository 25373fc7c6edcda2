/-!
# Arguments of the command line

An argument that starts with a hyphen is an option or a flag, until two hyphens alone end them; a
single hyphen is a plain argument. The value of an option is the next argument, or it is attached:
to a long name with an equals sign and to a letter with or without one. No option, flag or path may
be given twice. Arguments are read from left to right, so a question for the help or the version is
answered only if nothing before it is wrong.
-/
namespace RuleLexer.CommandLine

/-- The options, which have a value. -/
inductive OptionName
  | language
  | table
  | format
  | config
deriving DecidableEq, Repr

/-- The flags, which have none. -/
inductive Flag
  | listLanguages
  | help
  | version
deriving DecidableEq, Repr

def OptionName.all : List OptionName := [language, table, format, config]

def OptionName.longName : OptionName → String
  | language => "language"
  | table => "table"
  | format => "format"
  | config => "config"

def OptionName.letter : OptionName → Char
  | language => 'l'
  | table => 't'
  | format => 'f'
  | config => 'c'

def Flag.all : List Flag := [listLanguages, help, version]

def Flag.longName : Flag → String
  | listLanguages => "list-languages"
  | help => "help"
  | version => "version"

def Flag.letter? : Flag → Option Char
  | listLanguages => none
  | help => some 'h'
  | version => some 'V'

/-- Why arguments make no request. -/
inductive UsageError
  | nothingGiven
  | unknownArgument (argument : String)
  | missingValue (option : OptionName)
  /-- A flag has a value. -/
  | unexpectedValue (flag : Flag)
  | repeatedOption (option : OptionName)
  | repeatedFlag (flag : Flag)
  | secondPath (path : String)
  /-- A language is chosen by its name as well as by a table. -/
  | languageAndTable
  | missingPath
deriving DecidableEq, Repr

def UsageError.message : UsageError → String
  | nothingGiven => "no arguments are given"
  | unknownArgument argument => "unknown argument '" ++ argument ++ "'"
  | missingValue option => "option '--" ++ option.longName ++ "' needs a value"
  | unexpectedValue flag => "flag '--" ++ flag.longName ++ "' has no value"
  | repeatedOption option => "option '--" ++ option.longName ++ "' is given twice"
  | repeatedFlag flag => "flag '--" ++ flag.longName ++ "' is given twice"
  | secondPath path => "a second path is given: '" ++ path ++ "'"
  | languageAndTable => "options '--language' and '--table' exclude each other"
  | missingPath => "the path of a file is missing"

/-! ## Single arguments -/

/-- What an argument is. -/
inductive Word
  | plain
  /-- Two hyphens, after which all arguments are plain. -/
  | separator
  | option (name : OptionName) (attached : Option (List Char))
  | flag (flag : Flag)
  | valuedFlag (flag : Flag)
  | unknown

/-- A long name, and what follows an equals sign after it. -/
def Word.ofLong (chars : List Char) : Word :=
  let name := String.ofList (chars.takeWhile (· ≠ '='))
  let attached := match chars.dropWhile (· ≠ '=') with
    | [] => none
    | _ :: value => some value
  match OptionName.all.find? (·.longName == name), Flag.all.find? (·.longName == name) with
  | some found, _ => .option found attached
  | none, some found => if attached.isSome then .valuedFlag found else .flag found
  | none, none => .unknown

/-- A letter, and the value attached to it. -/
def Word.ofLetter (letter : Char) (chars : List Char) : Word :=
  match OptionName.all.find? (·.letter == letter), Flag.all.find? (·.letter? == some letter) with
  | some found, _ =>
    match chars with
    | [] => .option found none
    | '=' :: value => .option found (some value)
    | value => .option found (some value)
  | none, some found => .flag found
  | none, none => .unknown

def Word.ofChars : List Char → Word
  | ['-', '-'] => .separator
  | '-' :: '-' :: chars => ofLong chars
  | '-' :: letter :: chars => ofLetter letter chars
  | _ => .plain

def Word.of (argument : String) : Word := ofChars argument.toList

/-! ## All arguments -/

/-- What has been read of the arguments. -/
structure Arguments where
  path : Option String := none
  language : Option String := none
  table : Option String := none
  format : Option String := none
  config : Option String := none
  listLanguages : Bool := false
deriving DecidableEq, Repr

namespace Arguments

def option? (arguments : Arguments) : OptionName → Option String
  | .language => arguments.language
  | .table => arguments.table
  | .format => arguments.format
  | .config => arguments.config

def putOption (arguments : Arguments) (value : String) : OptionName → Arguments
  | .language => { arguments with language := some value }
  | .table => { arguments with table := some value }
  | .format => { arguments with format := some value }
  | .config => { arguments with config := some value }

def addOption (arguments : Arguments) (option : OptionName) (value : String) :
    Except UsageError Arguments :=
  if (arguments.option? option).isSome then .error (.repeatedOption option)
  else .ok (arguments.putOption value option)

def addPath (arguments : Arguments) (path : String) : Except UsageError Arguments :=
  if arguments.path.isSome then .error (.secondPath path)
  else .ok { arguments with path := some path }

def addListLanguages (arguments : Arguments) : Except UsageError Arguments :=
  if arguments.listLanguages then .error (.repeatedFlag .listLanguages)
  else .ok { arguments with listLanguages := true }

end Arguments

/-- The arguments up to their end or to a question for the help or the version. -/
inductive Reading
  | complete (arguments : Arguments)
  | help
  | version

/-- Whether an argument can be the value of the option before it. -/
def isValue (argument : String) : Bool :=
  match Word.of argument with
  | .plain => true
  | _ => false

/-- Reads the arguments after the separator. -/
def readPlain : List String → Arguments → Except UsageError Reading
  | [], arguments => .ok (.complete arguments)
  | argument :: rest, arguments => do
    let arguments ← arguments.addPath argument
    readPlain rest arguments

def readWords : List String → Arguments → Except UsageError Reading
  | [], arguments => .ok (.complete arguments)
  | argument :: rest, arguments =>
    match Word.of argument with
    | .plain => do
      let arguments ← arguments.addPath argument
      readWords rest arguments
    | .separator => readPlain rest arguments
    | .option option (some value) => do
      let arguments ← arguments.addOption option (String.ofList value)
      readWords rest arguments
    | .option option none =>
      match rest with
      | [] => .error (.missingValue option)
      | value :: rest =>
        if isValue value then do
          let arguments ← arguments.addOption option value
          readWords rest arguments
        else .error (.missingValue option)
    | .flag .listLanguages => do
      let arguments ← arguments.addListLanguages
      readWords rest arguments
    | .flag .help => .ok .help
    | .flag .version => .ok .version
    | .valuedFlag flag => .error (.unexpectedValue flag)
    | .unknown => .error (.unknownArgument argument)

/-! ## Requests -/

/-- Where the table of a file comes from. -/
inductive TableChoice
  /-- The file that the table is written in. -/
  | file (path : String)
  | language (name : String)
  /-- The language of files with this name. -/
  | byName
deriving DecidableEq, Repr

/-- A file to be tokenized. -/
structure Invocation where
  path : String
  table : TableChoice
  format : Option String := none
  config : Option String := none
deriving DecidableEq, Repr

/-- What the program is asked to do. -/
inductive Request
  | help
  | version
  | listLanguages
  | tokenize (invocation : Invocation)
deriving DecidableEq, Repr

/-- The table that the arguments choose. -/
def Arguments.tableChoice (arguments : Arguments) : Except UsageError TableChoice :=
  match arguments.language, arguments.table with
  | some _, some _ => .error .languageAndTable
  | none, some path => .ok (.file path)
  | some name, none => .ok (.language name)
  | none, none => .ok .byName

def Arguments.request (arguments : Arguments) : Except UsageError Request := do
  if arguments = {} then throw .nothingGiven
  let table ← arguments.tableChoice
  if arguments.listLanguages then return .listLanguages
  match arguments.path with
  | some path => return .tokenize ⟨path, table, arguments.format, arguments.config⟩
  | none => throw .missingPath

/-- The request that is written on the command line. -/
def Request.parse (arguments : List String) : Except UsageError Request := do
  match ← readWords arguments {} with
  | .help => return .help
  | .version => return .version
  | .complete arguments => arguments.request

end RuleLexer.CommandLine
