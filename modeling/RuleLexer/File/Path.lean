/-!
# Paths of files

A path is a text of parts with slashes between them. Empty parts and single dots mean nothing, and
two dots lead back to the directory around.
-/
namespace RuleLexer.File

/-- The parts of a path between its slashes, from the first one on. -/
def pathParts : List Char → List (List Char)
  | [] => [[]]
  | '/' :: rest => [] :: pathParts rest
  | char :: rest =>
    match pathParts rest with
    | part :: parts => (char :: part) :: parts
    | [] => [[char]]

/-- Whether a part of a path stays where it is. -/
def isIdlePart (part : List Char) : Bool := part = [] || part = ['.']

/-- The name of the file at the end of a path. A path that ends in two dots leads to no file. -/
def fileName? (path : List Char) : Option (List Char) :=
  match ((pathParts path).filter fun part => !isIdlePart part).getLast? with
  | some ['.', '.'] => none
  | name => name

/-- What follows the last dot in the name of a file. A dot at the start of the name is a part of the
name. -/
def extension? (path : List Char) : Option (List Char) := do
  let name ← fileName? path
  let reversed := name.tail.reverse
  if '.' ∈ reversed then some (reversed.takeWhile (· ≠ '.')).reverse else none

/-- The path of a file with a dot and an extension after its name. -/
def withExtension? (path extension : List Char) : Option (List Char) :=
  if (fileName? path).isSome then
    let parts := ((pathParts path).reverse.dropWhile isIdlePart).reverse
    some (['/'].intercalate parts ++ '.' :: extension)
  else none

end RuleLexer.File
