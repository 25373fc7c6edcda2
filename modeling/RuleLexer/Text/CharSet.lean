/-!
# Sets of characters

A set of scalar values is kept as its ranges, in increasing order and with a gap between neighbours,
so that equal sets are equal lists. The surrogates are no scalar values: the value after U+D7FF is
U+E000, and a range that runs over the surrogates holds none of them, because no character has such
a value. Membership is decided by walking the ranges and stopping at the first one that starts above
the character.
-/
namespace RuleLexer

/-- A set of characters, as ranges of scalar values with both ends included. -/
structure CharSet where
  ranges : List (Nat × Nat)
deriving DecidableEq, Repr

namespace CharSet

/-- The greatest scalar value. -/
def maxScalar : Nat := 0x10FFFF

/-- The scalar value after `value`, which steps over the surrogates. -/
def after (value : Nat) : Nat := if value = 0xD7FF then 0xE000 else value + 1

/-- The scalar value before `value`, which steps over the surrogates. -/
def before (value : Nat) : Nat := if value = 0xE000 then 0xD7FF else value - 1

def empty : CharSet := ⟨[]⟩

def full : CharSet := ⟨[(0, maxScalar)]⟩

def single (char : Char) : CharSet := ⟨[(char.toNat, char.toNat)]⟩

/-- The characters from one end to the other, whichever end is given first. -/
def range (left right : Nat) : CharSet := ⟨[(min left right, max left right)]⟩

/-- Whether a value lies in one of the ranges, which are in increasing order. -/
def inRanges (value : Nat) : List (Nat × Nat) → Bool
  | [] => false
  | (low, high) :: rest =>
    if value < low then false else if value ≤ high then true else inRanges value rest

def containsValue (set : CharSet) (value : Nat) : Bool := inRanges value set.ranges

def contains (set : CharSet) (char : Char) : Bool := set.containsValue char.toNat

/-- Inserts a range before the first one that does not start below it. -/
def insertRange (range : Nat × Nat) : List (Nat × Nat) → List (Nat × Nat)
  | [] => [range]
  | head :: rest =>
    if range.1 ≤ head.1 then range :: head :: rest else head :: insertRange range rest

/-- Joins a range with those that follow it, in increasing order of their lower ends, as long as
they overlap or touch. -/
def joinFrom (low high : Nat) : List (Nat × Nat) → List (Nat × Nat)
  | [] => [(low, high)]
  | (nextLow, nextHigh) :: rest =>
    if nextLow ≤ high + 1 then joinFrom low (max high nextHigh) rest
    else (low, high) :: joinFrom nextLow nextHigh rest

def joinRanges : List (Nat × Nat) → List (Nat × Nat)
  | [] => []
  | (low, high) :: rest => joinFrom low high rest

/-- The set of ranges given in any order, which may overlap. -/
def ofRanges (ranges : List (Nat × Nat)) : CharSet :=
  ⟨joinRanges (ranges.foldr insertRange [])⟩

def union (left right : CharSet) : CharSet :=
  if right.ranges.isEmpty then left
  else if left.ranges.isEmpty then right
  else ofRanges (left.ranges ++ right.ranges)

instance : Union CharSet := ⟨union⟩

/-- The parts of one range that no range of a list in increasing order covers. -/
def cutRange (low high : Nat) : List (Nat × Nat) → List (Nat × Nat)
  | [] => [(low, high)]
  | (first, last) :: rest =>
    if last < low then cutRange low high rest
    else if high < first then [(low, high)]
    else
      let head := if low < first then [(low, before first)] else []
      if last < high then head ++ cutRange (after last) high rest else head

def difference (left right : CharSet) : CharSet :=
  ⟨left.ranges.flatMap fun (low, high) => cutRange low high right.ranges⟩

/-- The part of one range that lies in the ranges of a list. -/
def clipRange (low high : Nat) (ranges : List (Nat × Nat)) : List (Nat × Nat) :=
  ranges.filterMap fun (first, last) =>
    if max low first ≤ min high last then some (max low first, min high last) else none

def intersection (left right : CharSet) : CharSet :=
  ofRanges (left.ranges.flatMap fun (low, high) => clipRange low high right.ranges)

instance : Inter CharSet := ⟨intersection⟩

/-- The characters of exactly one of two sets. -/
def symmetricDifference (left right : CharSet) : CharSet :=
  (left ∪ right).difference (left ∩ right)

/-- The ranges between neighbouring ranges, from `start` on. -/
def gaps (start : Nat) : List (Nat × Nat) → List (Nat × Nat)
  | [] => if start ≤ maxScalar then [(start, maxScalar)] else []
  | (low, high) :: rest =>
    if low = 0 then gaps (after high) rest
    else (min start (before low), max start (before low)) :: gaps (after high) rest

/-- Every character outside a set. -/
def complement (set : CharSet) : CharSet := ⟨gaps 0 set.ranges⟩

end CharSet

end RuleLexer
