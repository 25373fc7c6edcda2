import RuleLexer.Regex.Program

/-!
# Programs of expressions

A bounded repetition is written out: as many copies of the body as are required, and the optional
ones nested in one another, so that leaving any of them leaves all that follow. An unbounded
repetition ends in rounds of the body. If the body may match nothing, the first round is tried even
when it is not required, and choices within the body are marked, so that an idle round is noticed at
the first choice that it repeats.
-/
namespace RuleLexer.Regex

namespace Program

/-- The program if it is wanted more than nothing, or nothing if that is. -/
def optional (greedy : Bool) (body : Program) : Program :=
  if greedy then alt body done else alt done body

/-- A mark with the next label, where marks are wanted. -/
def marked (marking : Bool) (body : Program) (label : Nat) : Program × Nat :=
  if marking then (mark label body, label + 1) else (body, label)

/-- As many copies of a body as are given, before `tail`. -/
def copies (body : Nat → Program × Nat) : Nat → Program → Nat → Program × Nat
  | 0, tail, label => (tail, label)
  | count + 1, tail, label =>
    let (copy, label) := body label
    copies body count (copy.andThen tail) label

/-- At most as many copies of a body as are given, each of them inside the one before it. -/
def optionalCopies (marking greedy : Bool) (body : Nat → Program × Nat) :
    Nat → Program → Nat → Program × Nat
  | 0, inner, label => (inner, label)
  | count + 1, inner, label =>
    let (copy, label) := body label
    let (option, label) := marked marking (optional greedy (copy.andThen inner)) label
    optionalCopies marking greedy body count option label

/-- One copy of a body and then any number of rounds of the same copy. -/
def onceOrMore (greedy : Bool) (body : Nat → Program × Nat) (label : Nat) : Program × Nat :=
  let (copy, label) := body label
  (copy.andThen (rounds label greedy copy), label + 1)

/-- The program of an expression, with labels from the given one on. Choices are marked if `marking`
holds; a choice that continues another one shares its mark. -/
def ofExprFrom (marking continued : Bool) : Expr → Nat → Program × Nat
  | .empty, label => (done, label)
  | .literal chars, label => (literal chars, label)
  | .set chars, label => (set chars, label)
  | .look assertion, label => (look assertion, label)
  | .capture index body, label =>
    let (inner, label) := ofExprFrom marking false body label
    (seq (openGroup index) (inner.andThen (closeGroup index)), label)
  | .concat head tail, label =>
    let (first, label) := ofExprFrom marking false head label
    let (second, label) := ofExprFrom marking false tail label
    (first.andThen second, label)
  | .alternation head tail, label =>
    let (preferred, label) := ofExprFrom marking false head label
    let (other, label) := ofExprFrom marking true tail label
    marked (marking && !continued) (alt preferred other) label
  | .repetition least most greedy body, label =>
    let copy := ofExprFrom marking false body
    match most with
    | some most =>
      let (option, label) := optionalCopies marking greedy copy (most - least) done label
      copies copy least option label
    | none =>
      if body.leastLength.any (0 < ·) then
        match least with
        | 0 =>
          let (round, label) := copy label
          (rounds label greedy round, label + 1)
        | least + 1 =>
          let (more, label) := onceOrMore greedy copy label
          copies copy least more label
      else
        let round := ofExprFrom true false body
        match least with
        | 0 =>
          let (more, label) := onceOrMore greedy round label
          marked marking (optional greedy more) label
        | least + 1 =>
          let (more, label) := onceOrMore greedy round label
          copies copy least more label

/-- The program of an expression. -/
def ofExpr (expr : Expr) : Program := (ofExprFrom false false expr 0).1

end Program

/-- An estimate of the memory, in bytes, that the program of an expression takes when every
repetition is written out. -/
def Expr.footprint : Expr → Nat
  | empty | look _ => 32
  | literal chars => 32 * (chars.map Char.utf8Size).sum
  | set chars => (chars.ranges.map fun range => if range.2 < 0x80 then 8 else 64).sum + 32
  | capture _ body => body.footprint + 64
  | concat head tail => head.footprint + tail.footprint
  | alternation head tail => head.footprint + tail.footprint + 4
  | repetition least most _ body => (body.footprint + 40) * max 1 (max least (most.getD 0))

/-- The greatest footprint of a pattern. -/
def footprintLimit : Nat := 10 * Nat.pow 2 20

end RuleLexer.Regex
