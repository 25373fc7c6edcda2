import RuleLexer.Regex.Expr

/-!
# Searching backwards

Whether an expression matches some stretch of a text that ends at a place is found out by going
backwards from the place. The last character of the stretch is taken off, which leaves expressions
for what comes before it, and so on until one of them matches nothing more. It is only asked whether
there is such a stretch, so neither groups nor preferences are kept, and the same expression need
not be followed twice.
-/
namespace RuleLexer.Regex

namespace Expr

/-- Whether an expression matches the empty stretch at a place. -/
def idles (around : Around) : Expr → Bool
  | empty => true
  | literal chars => chars.isEmpty
  | set _ => false
  | look assertion => assertion.holds around
  | repetition least _ _ body => least = 0 || body.idles around
  | capture _ body => body.idles around
  | concat head tail => head.idles around && tail.idles around
  | alternation head tail => head.idles around || tail.idles around

/-- The expressions for what comes before the last character of a stretch that ends at a place. The
rounds of a repetition after the one with the last character are idle, which is possible only if the
body may be idle at the place; then any number of rounds may come before. -/
def fronts (around : Around) (last : Char) : Expr → List Expr
  | empty | look _ => []
  | literal chars => if chars.getLast? = some last then [literal chars.dropLast] else []
  | set chars => if chars.contains last then [empty] else []
  | repetition least most greedy body =>
    if least = 0 ∧ most = some 0 then []
    else
      let fewest := if body.idles around then 0 else least - 1
      let before := repetition fewest (most.map fun most => max least most - 1) greedy body
      (body.fronts around last).map (concat before)
  | capture _ body => body.fronts around last
  | concat head tail =>
    (tail.fronts around last).map (concat head) ++
      if tail.idles around then head.fronts around last else []
  | alternation head tail => head.fronts around last ++ tail.fronts around last

/-- Whether one of the expressions matches some stretch that ends at a place. The characters before
the place are given nearest first, and `next` is the one right after it. -/
def anyEnds (next : Option Char) (exprs : List Expr) (before : List Char) : Bool :=
  exprs.any (idles ⟨before.head?, next⟩) ||
    match before with
    | [] => false
    | last :: before =>
      match exprs.flatMap (fronts ⟨some last, next⟩ last) with
      | [] => false
      | fronts => anyEnds (some last) fronts.eraseDups before

/-- Whether every stretch that an expression matches is seen to end where the text ends. -/
def endsLast : Expr → Bool
  | look assertion => assertion = .textEnd
  | capture _ body => body.endsLast
  | concat _ tail => tail.endsLast
  | alternation head tail => head.endsLast && tail.endsLast
  | _ => false

/-- Whether an expression matches some stretch of a text, which is given from its end. The stretches
that end last are asked for first, and often there can be no others. -/
def occurs (expr : Expr) (next : Option Char) (before : List Char) : Bool :=
  anyEnds next [expr] before ||
    match before with
    | [] => false
    | last :: before => !expr.endsLast && expr.occurs (some last) before

end Expr

end RuleLexer.Regex
