/-!
# Byte offsets into a text

A text is a list of characters, and a place in it is the number of bytes that the characters before
it take in UTF-8. Only the offsets between characters are places: cutting a text at an offset
succeeds exactly when the offset is the length of some front part of the text, so an offset inside a
character or past the end is refused rather than rounded.
-/
namespace RuleLexer.Text

/-- The number of bytes of a text in UTF-8. -/
def byteLength : List Char → Nat
  | [] => 0
  | char :: rest => char.utf8Size + byteLength rest

/-- Moves characters worth `count` bytes from the text onto `passed`, nearest first. -/
def splitOnto (passed : List Char) : List Char → Nat → Option (List Char × List Char)
  | text, 0 => some (passed, text)
  | [], _ + 1 => none
  | char :: rest, count =>
    if char.utf8Size ≤ count then splitOnto (char :: passed) rest (count - char.utf8Size) else none

/-- The text before an offset, nearest character first, and the text from the offset on. -/
def splitAt? (text : List Char) (offset : Nat) : Option (List Char × List Char) :=
  splitOnto [] text offset

/-- The part of a text between two offsets, if both are places and in order. -/
def slice? (text : List Char) (start stop : Nat) : Option (List Char) := do
  if stop < start then none
  let (_, tail) ← splitAt? text start
  let (part, _) ← splitAt? tail (stop - start)
  return part.reverse

/-- A boundary is an offset between two characters, or at either end of the text. -/
def IsBoundary (text : List Char) (offset : Nat) : Prop :=
  ∃ front back, text = front ++ back ∧ byteLength front = offset

/-- The boundaries of a text in increasing order, from `offset` on. -/
def boundariesFrom (offset : Nat) : List Char → List Nat
  | [] => [offset]
  | char :: rest => offset :: boundariesFrom (offset + char.utf8Size) rest

def boundaries (text : List Char) : List Nat := boundariesFrom 0 text

end RuleLexer.Text
