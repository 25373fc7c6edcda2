import RuleLexer.Proofs.Except
import RuleLexer.Proofs.Regex.Consumption
import RuleLexer.Proofs.Regex.Ends
import RuleLexer.Proofs.Regex.Reading
import RuleLexer.Proofs.Regex.Stretches
import RuleLexer.Proofs.Text.Tiling

/-!
# Look-behinds

A pattern that begins with a look-behind matches where the rest of it does, at the places that the
look-behind allows: its assertion matches some stretch that ends at the place, or none if it is
negated. The stretch may begin anywhere, and the assertion sees nothing after the place. Groups in
the assertion are no groups of the pattern.

## Main results

* `Lookbehind.allows_iff`: which places a look-behind allows.
* `Pattern.matchAt_lookbehind`: where a pattern with a look-behind matches, with its groups and
  without them.
* `Pattern.exists_assertion_cut_short`: an assertion that is no pattern may be taken apart.
-/
namespace RuleLexer

open Text Regex

/-- An expression matches a stretch that ends where the text ends. -/
def Regex.Expr.EndsIn (expr : Expr) (text : List Char) : Prop :=
  ∃ front piece, text = front ++ piece ∧ expr.Matches front.getLast? piece none

/-- An expression followed by the end of the text occurs in a text where it ends there. -/
theorem Regex.Expr.occurs_sequence_textEnd (expr : Expr) (text : List Char) :
    (Expr.sequence [expr, .look .textEnd]).occurs none text.reverse ↔ expr.EndsIn text := by
  have ended (previous next : Option Char) (piece : List Char) :
      (Expr.sequence [expr, .look .textEnd]).Matches previous piece next ↔
        expr.Matches previous piece next ∧ next = none := by
    rw [matches_sequence]
    cases next <;>
      simp [Stretches.inTurn, Stretches.andThen, Expr.Matches, Assertion.holds, Stretches.idle]
  rw [occurs_iff]
  constructor
  · rintro ⟨back, piece, rest, split, way⟩
    obtain ⟨way, none⟩ := (ended ..).mp way
    -- Nothing comes after the stretch, so it ends where the text does.
    obtain rfl : back = [] := by simpa using none
    exact ⟨rest.reverse, piece, by simpa using congrArg List.reverse split, by simpa using way⟩
  · rintro ⟨front, piece, rfl, way⟩
    exact ⟨[], piece, front.reverse, by simp, (ended ..).mpr ⟨by simpa using way, rfl⟩⟩

variable {options : PatternOptions}

namespace Pattern

theorem readExpr_eq_ok_iff {source : List Char} {expr : Expr} :
    readExpr options source = .ok expr ↔
      Expr.ofSource options.flags source = .ok expr ∧ expr.footprint ≤ footprintLimit := by
  unfold readExpr
  rw [bind_eq_ok_iff]
  constructor
  · rintro ⟨other, read, checked⟩
    dsimp only at checked
    split at checked
    · cases checked
    · next small =>
      cases checked
      exact ⟨read, Nat.le_of_not_lt small⟩
  · rintro ⟨read, small⟩
    refine ⟨expr, read, ?_⟩
    dsimp only
    rw [if_neg (Nat.not_lt.mpr small)]
    rfl

/-- No text that can be read begins with a look-behind. -/
theorem split?_eq_none_of_readExpr {source : List Char} {expr : Expr}
    (read : readExpr options source = .ok expr) : LookbehindSource.split? source = none := by
  obtain ⟨result, final, reads, -⟩ := ofSource_eq_ok_iff.mp (readExpr_eq_ok_iff.mp read).1
  obtain ⟨turn, turned, -⟩ := reads.exists_turn
  unfold LookbehindSource.split?
  split
  · cases turned
  · cases turned
  · rfl

end Pattern

/-- A look-behind allows the places where its assertion ends, or all others if it is negated. -/
theorem Lookbehind.allows_iff {parts : LookbehindSource} {lookbehind : Lookbehind} {expr : Expr}
    (known : Pattern.readLookbehind options parts = .ok lookbehind)
    (read : Pattern.readExpr options parts.assertion = .ok expr) (text : List Char) :
    lookbehind.allows text.reverse ↔ (expr.EndsIn text ↔ parts.negated = false) := by
  obtain ⟨whole, readWhole, same⟩ := bind_eq_ok_iff.mp known
  cases same
  have text' : "(?:".toList ++ parts.assertion ++ ")\\z".toList = wholeAssertion parts.assertion :=
    rfl
  rw [text'] at readWhole
  obtain rfl := ofSource_wholeAssertion rfl (Pattern.readExpr_eq_ok_iff.mp read).1
    (Pattern.readExpr_eq_ok_iff.mp readWhole).1
  rw [allows, ← Expr.occurs_sequence_textEnd]
  cases Expr.occurs _ _ _ <;> cases parts.negated <;> simp

namespace Pattern

variable {source : String} {pattern : Pattern} {parts : LookbehindSource} {expr : Expr}

/-- A pattern with a look-behind is the pattern of the rest of its text, with the look-behind. -/
theorem exists_rest (compiled : compile options source = .ok pattern)
    (split : LookbehindSource.split? source.toList = some parts) :
    ∃ lookbehind rest, readLookbehind options parts = .ok lookbehind ∧
      compile options (.ofList parts.rest) = .ok rest ∧ rest.lookbehind = none ∧
      pattern = { rest with source, lookbehind := some lookbehind } := by
  simp only [compile, split] at compiled
  obtain ⟨lookbehind, look, compiled⟩ := bind_eq_ok_iff.mp compiled
  obtain ⟨_, same, compiled⟩ := bind_eq_ok_iff.mp compiled
  cases same
  obtain ⟨expr, read, same⟩ := bind_eq_ok_iff.mp compiled
  cases same
  refine ⟨lookbehind, ⟨.ofList parts.rest, none, .ofExpr expr, expr.captureCount,
    expr.leastLength⟩, look, ?_, rfl, rfl⟩
  simp only [compile, String.toList_ofList, split?_eq_none_of_readExpr read]
  exact bind_eq_ok_iff.mpr ⟨_, rfl, bind_eq_ok_iff.mpr ⟨expr, read, rfl⟩⟩

/-- The match at a place is the match of the text before it and the text from it on. -/
theorem matchAt_append (pattern : Pattern) (front back : List Char) :
    pattern.matchAt (front ++ back) (byteLength front) =
      .ok ((pattern.matchHere? front.reverse back).map fun found =>
        ⟨byteLength front + found.stop, found.groups.map fun group =>
          group.map fun extent =>
            ⟨byteLength front + extent.start, byteLength front + extent.stop⟩⟩) := by
  have cut : splitAt? (front ++ back) (byteLength front) = some (front.reverse, back) :=
    splitAt?_eq_some_iff.mpr (by simp)
  rw [matchAt, cut]

/-- A pattern with a look-behind matches where its look-behind allows it and the rest matches. The
match is that of the rest, with the same groups, and ends at the same place when groups are not
asked for. -/
theorem matchAt_lookbehind (compiled : compile options source = .ok pattern)
    (split : LookbehindSource.split? source.toList = some parts)
    (read : readExpr options parts.assertion = .ok expr) :
    ∃ rest, compile options (.ofList parts.rest) = .ok rest ∧ rest.lookbehind = none ∧
      pattern.groupCount = rest.groupCount ∧ ∀ front back,
        let text := front ++ back
        let place := byteLength front
        let allowed := expr.EndsIn front ↔ parts.negated = false
        (∃ answer, pattern.matchAt text place = .ok answer) ∧
        (∀ found, pattern.matchAt text place = .ok (some found) ↔
          allowed ∧ rest.matchAt text place = .ok (some found)) ∧
        (∀ stop, pattern.stopAt text place = .ok (some stop) ↔
          allowed ∧ rest.stopAt text place = .ok (some stop)) ∧
        pattern.stopAt text place = (pattern.matchAt text place).map (Option.map Match.stop) := by
  obtain ⟨lookbehind, rest, look, compiledRest, free, rfl⟩ := exists_rest compiled split
  refine ⟨rest, compiledRest, free, rfl, fun front back => ?_⟩
  intro text place allowed
  -- The pattern asks its look-behind and then does what the rest does on its own.
  have asked : lookbehind.allows front.reverse ↔ allowed := Lookbehind.allows_iff look read front
  have matched : matchAt { rest with source, lookbehind := some lookbehind } text place =
      if lookbehind.allows front.reverse then rest.matchAt text place else .ok none := by
    simp only [text, place, matchAt_append, matchHere?, free, Option.all_some, Option.all_none,
      if_true]
    split <;> rfl
  have stopped := stopAt_eq { rest with source, lookbehind := some lookbehind } text place
  refine ⟨⟨_, matchAt_append _ front back⟩, fun found => ?_, fun stop => ?_, stopped⟩
  · rw [matched, ← asked]
    split
    · next allows => simp [allows]
    · next forbids => simp [forbids]
  · rw [stopped, matched, stopAt_eq, ← asked]
    split
    · next allows => simp [allows]
    · next forbids => simp [forbids, Except.map]

/-- The match of `c` after `ab` shows that the assertion matches `ab`, though it prefers to match
`a` alone. The group in the assertion is no group of the pattern. -/
theorem matchAt_lookbehind_of_alternatives : ∃ pattern expr,
    compile {} "(?<=(a)|ab)c" = .ok pattern ∧ pattern.matchAt "abc".toList 2 = .ok (some ⟨3, []⟩) ∧
      readExpr {} "(a)|ab".toList = .ok expr ∧ expr.EndsIn "ab".toList := by
  have compiles : (compile {} "(?<=(a)|ab)c").toOption.any fun pattern =>
      (pattern.matchAt "abc".toList 2).toOption = some (some ⟨3, []⟩) := by
    decide +kernel
  obtain ⟨pattern, compiled, matched⟩ := exists_ok_of_any compiles
  have reads : (readExpr {} "(a)|ab".toList).toOption.any fun _ => true := by
    decide +kernel
  obtain ⟨expr, read, -⟩ := exists_ok_of_any reads
  have split : LookbehindSource.split? "(?<=(a)|ab)c".toList =
      some ⟨false, "(a)|ab".toList, ['c']⟩ := by
    decide +kernel
  obtain ⟨rest, -, -, -, law⟩ := matchAt_lookbehind compiled split read
  have matched := eq_ok_of_toOption (of_decide_eq_true matched)
  have allowed := ((law ['a', 'b'] ['c']).2.1 _).mp matched
  exact ⟨pattern, expr, compiled, matched, read, allowed.1.mpr rfl⟩

/-- An assertion that is no pattern itself may be cut short by the text around it: its first
parenthesis closes the group that the assertion is put into, and only the alternative that follows
must match up to the place. So `z` is matched after `q`, as there is a parenthesis before it. -/
theorem exists_assertion_cut_short : ∃ pattern,
    compile {} "(?<=[](])|(?:[])]b)z" = .ok pattern ∧
      LookbehindSource.split? "(?<=[](])|(?:[])]b)z".toList =
        some ⟨false, "[](])|(?:[])]b".toList, ['z']⟩ ∧
      readExpr {} "[](])|(?:[])]b".toList = .error .groupUnopened ∧
      pattern.matchAt "(qz".toList 2 = .ok (some ⟨3, []⟩) := by
  have compiles : (compile {} "(?<=[](])|(?:[])]b)z").toOption.any fun pattern =>
      (pattern.matchAt "(qz".toList 2).toOption = some (some ⟨3, []⟩) := by
    decide +kernel
  obtain ⟨pattern, compiled, matched⟩ := exists_ok_of_any compiles
  refine ⟨pattern, compiled, by decide +kernel, ?_, eq_ok_of_toOption (of_decide_eq_true matched)⟩
  rfl

end Pattern

end RuleLexer
