import RuleLexer.Regex.Assertion

/-!
# Expressions

The expression that a pattern denotes. Sequences and alternatives are nested to the right, so the
parts of a sequence and the branches of an alternative can be read off as lists. Expressions are
built through `Expr.sequence`, `Expr.choice`, `Expr.ofSet` and `Expr.repeated`, which keep them in a
simple form: no empty part in a sequence, neighbouring literals joined, alternatives between single
characters or between sets made one set, a common beginning of all branches taken out.

The least length of a match is computed from this form. A set without members has no least length,
and neither has a sequence or an alternative that contains one.
-/
namespace RuleLexer.Regex

/-- A pattern as a tree. -/
inductive Expr
  | empty
  /-- The characters one after the other; never an empty list. -/
  | literal (chars : List Char)
  | set (chars : CharSet)
  | look (assertion : Assertion)
  | repetition (least : Nat) (most : Option Nat) (greedy : Bool) (body : Expr)
  | capture (index : Nat) (body : Expr)
  | concat (head tail : Expr)
  | alternation (head tail : Expr)
deriving DecidableEq, Repr

namespace Expr

/-- The expression that matches nothing. -/
def never : Expr := .set .empty

/-- The number of bytes that the scalar value takes in UTF-8. -/
def scalarSize (value : Nat) : Nat :=
  if value ≤ 0x7F then 1 else if value ≤ 0x7FF then 2 else if value ≤ 0xFFFF then 3 else 4

/-- A lower bound of the bytes in a match, if there is one. -/
def leastLength : Expr → Option Nat
  | empty | look _ => some 0
  | literal chars => some (chars.map Char.utf8Size).sum
  | set chars => chars.ranges.head?.map fun range => scalarSize range.1
  | repetition least _ _ body => body.leastLength.map (· * least)
  | capture _ body => body.leastLength
  | concat head tail => do return (← head.leastLength) + (← tail.leastLength)
  | alternation head tail => do return min (← head.leastLength) (← tail.leastLength)

/-- An upper bound of the bytes in a match, if there is one. -/
def mostLength : Expr → Option Nat
  | empty | look _ => some 0
  | literal chars => some (chars.map Char.utf8Size).sum
  | set chars => chars.ranges.getLast?.map fun range => scalarSize range.2
  | repetition _ most _ body => do return (← body.mostLength) * (← most)
  | capture _ body => body.mostLength
  | concat head tail => do return (← head.mostLength) + (← tail.mostLength)
  | alternation head tail => do return max (← head.mostLength) (← tail.mostLength)

/-- The number of capturing groups. -/
def captureCount : Expr → Nat
  | empty | look _ | literal _ | set _ => 0
  | repetition _ _ _ body => body.captureCount
  | capture _ body => body.captureCount + 1
  | concat head tail | alternation head tail => head.captureCount + tail.captureCount

/-- The parts of a sequence. -/
def parts : Expr → List Expr
  | concat head tail => head :: tail.parts
  | empty => []
  | other => [other]

/-- The branches of an alternative. -/
def branches : Expr → List Expr
  | alternation head tail => head :: tail.branches
  | other => [other]

def ofParts : List Expr → Expr
  | [] => empty
  | [part] => part
  | part :: rest => concat part (ofParts rest)

def ofBranches : List Expr → Expr
  | [] => never
  | [branch] => branch
  | branch :: rest => alternation branch (ofBranches rest)

/-- Joins neighbouring literals. -/
def joinLiterals : List Expr → List Expr
  | [] => []
  | part :: rest =>
    match part, joinLiterals rest with
    | literal left, literal right :: more => literal (left ++ right) :: more
    | part, joined => part :: joined

/-- One expression after the other. -/
def sequence (exprs : List Expr) : Expr := ofParts (joinLiterals (exprs.flatMap parts))

/-- A character of a set; the only member of a set is a literal. -/
def ofSet (chars : CharSet) : Expr :=
  match chars.ranges with
  | [(low, high)] => if low = high then literal [Char.ofNat low] else set chars
  | _ => set chars

/-- The set of the branches' characters, if every branch is a single character. -/
def singleChars? (exprs : List Expr) : Option CharSet := do
  let values ← exprs.mapM fun
    | literal [char] => some (char.toNat, char.toNat)
    | _ => none
  return .ofRanges values

/-- The union of the branches, if every branch is a set. -/
def unionOfSets? (exprs : List Expr) : Option CharSet := do
  let sets ← exprs.mapM fun
    | set chars => some chars
    | _ => none
  return sets.foldl (· ∪ ·) .empty

/-- The longest common beginning of two lists. -/
def commonStart : List Expr → List Expr → List Expr
  | left :: lefts, right :: rights =>
    if left = right then left :: commonStart lefts rights else []
  | _, _ => []

/-- The parts that every branch begins with; branches that are no sequences have none. -/
def commonBeginning : List Expr → List Expr
  | [] => []
  | first :: rest => rest.foldl (fun shared expr => commonStart shared (sequenceParts expr))
      (sequenceParts first)
where
  sequenceParts : Expr → List Expr
    | concat head tail => head :: tail.parts
    | _ => []

/-- The alternative of branches that are not alternatives themselves. `depth` bounds how often a
common beginning is taken out, each of which makes the branches shorter. -/
def choiceOf : Nat → List Expr → Expr
  | _, [] => never
  | _, [branch] => branch
  | depth, exprs =>
    match singleChars? exprs, unionOfSets? exprs, depth, commonBeginning exprs with
    | some chars, _, _, _ => ofSet chars
    | none, some chars, _, _ => ofSet chars
    | none, none, depth + 1, shared@(_ :: _) =>
      let endings := exprs.map fun expr => sequence (expr.parts.drop shared.length)
      sequence (shared ++ [choiceOf depth (endings.flatMap branches)])
    | _, _, _, _ => ofBranches exprs

/-- Any of the expressions, the earlier ones first. -/
def choice (exprs : List Expr) : Expr :=
  choiceOf (exprs.flatMap parts).length (exprs.flatMap branches)

/-- A body again and again. One that consumes nothing is matched once at most. -/
def repeated (least : Nat) (most : Option Nat) (greedy : Bool) (body : Expr) : Expr :=
  let idle := body.mostLength = some 0
  let least := if idle then min least 1 else least
  let most := if idle then some ((most.map (min · 1)).getD 1) else most
  if least = 0 ∧ most = some 0 then empty
  else if least = 1 ∧ most = some 1 then body
  else repetition least most greedy body

end Expr

end RuleLexer.Regex
