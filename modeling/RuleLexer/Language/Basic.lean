import RuleLexer.File.Path
import RuleLexer.Language.Gsql
import RuleLexer.Text.Quoted

/-!
# Languages

The languages whose tables come with the library. A language is found by its name, by another name
for it, or by the name of a file. The case of the letters of the alphabet does not matter.
-/
namespace RuleLexer

/-- A language, by what it is called and what its files are called. -/
structure Language where
  name : String
  aliases : List String
  /-- Names of files; one that starts with a star stands for all that end in the rest. -/
  filenames : List String
  table : Except TableError RuleTable

namespace Language

def gsql : Language where
  name := Gsql.definition.name
  aliases := ["gsql"]
  filenames := ["*.gsql"]
  table := Gsql.table

def all : List Language := [gsql]

def lowercase (text : List Char) : List Char := text.map Char.toLower

def hasName (language : Language) (name : String) : Bool :=
  (language.name :: language.aliases).any fun other =>
    lowercase other.toList == lowercase name.toList

/-- Whether the name of a file is one of those that a language's file name stands for. -/
def filenameMatches (glob file : List Char) : Bool :=
  match glob with
  | '*' :: ending => (lowercase ending).isSuffixOf (lowercase file)
  | glob => glob == file

def hasFile (language : Language) (file : List Char) : Bool :=
  language.filenames.any fun glob => filenameMatches glob.toList file

def named? (name : String) : Option Language := all.find? fun language => language.hasName name

def ofPath? (path : String) : Option Language := do
  let file ← File.fileName? path.toList
  all.find? fun language => language.hasFile file

/-- A list of texts in a message. -/
def debugList (texts : List String) : String :=
  "[" ++ ", ".intercalate (texts.map fun text => String.ofList (Text.quote text.toList)) ++ "]"

/-- A language in a message. -/
def debugText (language : Language) : String :=
  "Language \x7b name: " ++ String.ofList (Text.quote language.name.toList) ++ ", aliases: " ++
    debugList language.aliases ++ ", filenames: " ++ debugList language.filenames ++ " \x7d"

end Language

end RuleLexer
