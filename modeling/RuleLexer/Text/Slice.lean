import RuleLexer.Text.Offset
import RuleLexer.Text.Quoted

/-!
# Slices

The part of a text between two byte offsets. Offsets that do not describe a part of the text are an
error that says what is wrong with them: one lies past the end, or they are out of order, or one
lies inside a character.
-/
namespace RuleLexer.Text

/-- Why two offsets describe no part of a text. -/
inductive SliceError
  | pastEnd (text : List Char) (offset : Nat)
  | reversed (text : List Char) (start stop : Nat)
  /-- The character begins at `first`. -/
  | insideChar (text : List Char) (offset : Nat) (char : Char) (first : Nat)
deriving DecidableEq, Repr

/-- The front part of a text that fits into a number of bytes. -/
def truncate (limit : Nat) : List Char → List Char
  | [] => []
  | char :: rest =>
    if char.utf8Size ≤ limit then char :: truncate (limit - char.utf8Size) rest else []

/-- A text in a message: long ones are cut short. -/
def abridge (text : List Char) : String :=
  let front := truncate 256 text
  "`" ++ String.ofList front ++ "`" ++ (if front.length < text.length then "[...]" else "")

def SliceError.message : SliceError → String
  | pastEnd text offset =>
    "byte index " ++ toString offset ++ " is out of bounds of " ++ abridge text
  | reversed text start stop =>
    "begin <= end (" ++ toString start ++ " <= " ++ toString stop ++ ") when slicing " ++
      abridge text
  | insideChar text offset char first =>
    "byte index " ++ toString offset ++ " is not a char boundary; it is inside " ++
      String.ofList (quoteChar char) ++ " (bytes " ++ toString first ++ ".." ++
      toString (first + char.utf8Size) ++ ") of " ++ abridge text

/-- The character that an offset lies inside of, and where it begins. -/
def charAround? (start : Nat) : List Char → Nat → Option (Char × Nat)
  | [], _ => none
  | char :: rest, offset =>
    if offset ≤ start then none
    else if offset < start + char.utf8Size then some (char, start)
    else charAround? (start + char.utf8Size) rest offset

/-- What is wrong with two offsets that describe no part of a text. -/
def sliceError (text : List Char) (start stop : Nat) : SliceError :=
  if start > byteLength text then .pastEnd text start
  else if stop > byteLength text then .pastEnd text stop
  else match charAround? 0 text start, charAround? 0 text stop with
    | some (char, first), _ =>
      if stop < start then .reversed text start stop else .insideChar text start char first
    | none, some (char, first) =>
      if stop < start then .reversed text start stop else .insideChar text stop char first
    | none, none => .reversed text start stop

/-- The part of a text between two offsets. -/
def slice (text : List Char) (start stop : Nat) : Except SliceError (List Char) :=
  match slice? text start stop with
  | some part => .ok part
  | none => .error (sliceError text start stop)

end RuleLexer.Text
