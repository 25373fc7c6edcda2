import RuleLexer.File.Path

/-!
# Folders

A folder holds files under their paths; the directories inside it are those that the paths lead
through. A path is followed part by part from the folder itself, which it cannot leave.
-/
namespace RuleLexer.File

/-- Why a file cannot be read as a text. -/
inductive ReadError
  | missing
  /-- The path leads through a file as if it were a directory. -/
  | notADirectory
  | isADirectory
  | notUtf8
  | other (cause : String)
deriving DecidableEq, Repr

def ReadError.message : ReadError → String
  | missing => "No such file or directory (os error 2)"
  | notADirectory => "Not a directory (os error 20)"
  | isADirectory => "Is a directory (os error 21)"
  | notUtf8 => "stream did not contain valid UTF-8"
  | other cause => cause

/-- What reading the file at a path gives. -/
abbrev Files := String → Except ReadError ByteArray

/-- Reads a file as a text. -/
def Files.readText (files : Files) (path : String) : Except ReadError String := do
  match String.fromUTF8? (← files path) with
  | some text => return text
  | none => throw .notUtf8

/-- Files under their paths. -/
structure Folder where
  files : List (String × ByteArray)

namespace Folder

/-- The parts of a path that lead somewhere. -/
def partsOf (path : String) : List (List Char) :=
  (pathParts path.toList).filter fun part => !isIdlePart part

def file? (folder : Folder) (parts : List (List Char)) : Option ByteArray :=
  (folder.files.find? fun (path, _) => partsOf path == parts).map (·.2)

/-- Whether the path of a file leads through a place. -/
def isDirectory (folder : Folder) (parts : List (List Char)) : Bool :=
  folder.files.any fun (path, _) => parts.isPrefixOf (partsOf path) && partsOf path != parts

/-- Follows the rest of a path from a directory. -/
def follow (folder : Folder) : (directory rest : List (List Char)) → Except ReadError ByteArray
  | _, [] => .error .isADirectory
  | directory, part :: rest =>
    if isIdlePart part then follow folder directory rest
    else if part = ['.', '.'] then follow folder directory.dropLast rest
    else
      let next := directory ++ [part]
      if folder.isDirectory next then follow folder next rest
      else match folder.file? next with
        | none => .error .missing
        | some bytes => if rest.isEmpty then .ok bytes else .error .notADirectory

/-- The files of a folder. An empty path and one that starts with a slash lead to nothing in it. -/
def read (folder : Folder) : Files := fun path =>
  if path.isEmpty ∨ path.startsWith "/" then .error .missing
  else folder.follow [] (pathParts path.toList)

end Folder

end RuleLexer.File
