import RuleLexer.Pattern
import RuleLexer.Proofs.Except

/-!
# Compiled patterns

What a text is compiled to depends on the expressions that its parts stand for. Whether a property
of patterns holds of a compiled text can so be found out from these expressions.

## Main results

* `Pattern.compile_of_split`: the pattern of a text without a look-behind.
* `Pattern.exists_compile`, `Pattern.exists_compile_of_lookbehind`: a text is compiled, and its
  pattern has a property, if its expressions have it.
-/
namespace RuleLexer.Pattern

open Regex

variable {options : PatternOptions} {source : String} {chars : List Char} {check : Pattern → Bool}

/-- The pattern of a text, given the look-behind and the expression that the text stands for. -/
def ofExpr (source : String) (lookbehind : Option Lookbehind) (expr : Expr) : Pattern where
  source := source
  lookbehind := lookbehind
  program := .ofExpr expr
  groupCount := expr.captureCount
  leastLength := expr.leastLength

/-- A text without a look-behind is compiled if it can be read. -/
theorem compile_of_split (spelled : source.toList = chars)
    (split : LookbehindSource.split? chars = none) :
    compile options source = (readExpr options chars).map (ofExpr source none) := by
  simp only [compile, spelled, split, bind, Except.bind, pure, Except.pure]
  cases readExpr options chars <;> rfl

theorem exists_compile (spelled : source.toList = chars)
    (split : LookbehindSource.split? chars = none)
    (read : (readExpr options chars).toOption.any fun expr => check (ofExpr source none expr)) :
    ∃ pattern, compile options source = .ok pattern ∧ check pattern := by
  obtain ⟨expr, known, checked⟩ := exists_ok_of_any read
  refine ⟨_, ?_, checked⟩
  rw [compile_of_split spelled split, known]
  rfl

/-- A text with a look-behind is compiled if both parts of it can be read. -/
theorem exists_compile_of_lookbehind (parts : LookbehindSource) (lookbehind : Lookbehind)
    (spelled : source.toList = chars) (split : LookbehindSource.split? chars = some parts)
    (look : readLookbehind options parts = .ok lookbehind)
    (read : (readExpr options parts.rest).toOption.any fun expr =>
      check (ofExpr source (some lookbehind) expr)) :
    ∃ pattern, compile options source = .ok pattern ∧ pattern.lookbehind = some lookbehind ∧
      check pattern := by
  obtain ⟨expr, known, checked⟩ := exists_ok_of_any read
  refine ⟨_, ?_, rfl, checked⟩
  simp [compile, spelled, split, look, known, bind, Except.bind, pure, Except.pure, ofExpr]

end RuleLexer.Pattern
