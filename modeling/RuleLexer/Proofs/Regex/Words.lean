import RuleLexer.Proofs.Regex.Borders
import RuleLexer.Proofs.Regex.Greed

/-!
# Matches and words

A rule that stops in the middle of a word leaves the rest of the word to another rule, which cannot
see that it is a rest. A pattern spares words if none of its matches stops there. There are three
ways to be sure of that: the last character of a match belongs to no word, an edge of a word is
asked for at the end, or the match runs on for as long as characters of words follow.

## Main results

* `Pattern.sparesWords_of_endsIn`, `Pattern.sparesWords_of_endsAt`, `Pattern.sparesWords_of_greed`:
  the three ways.
-/
namespace RuleLexer

open Text Regex

/-- Characters of words stand on both sides of a place. -/
def InsideWord (previous next : Option Char) : Prop :=
  WordScope.unicode.at previous ∧ WordScope.unicode.at next

instance (previous next : Option Char) : Decidable (InsideWord previous next) :=
  inferInstanceAs (Decidable (_ ∧ _))

namespace Pattern

variable {pattern : Pattern}

/-- No match of a pattern ends inside a word. -/
def SparesWords (pattern : Pattern) : Prop :=
  ∀ before front back found, pattern.matchHere? before (front ++ back) = some found →
    byteLength front = found.stop → ¬InsideWord (lastOf before.head? front) back.head?

theorem sparesWords_of_endsIn (consumes : pattern.program.mustConsume)
    (ends : pattern.program.endsIn fun char => !WordScope.unicode.holds char) :
    pattern.SparesWords := by
  rintro before front back found matched size ⟨behind, -⟩
  obtain ⟨later, way⟩ := matches_of_matchHere? matched size
  -- The match is not empty, so the character before its end is its own last one.
  obtain ⟨front, last, rfl⟩ :=
    front.eq_nil_or_concat.resolve_left (way.ne_nil_of_mustConsume consumes)
  have outside := way.getLast?_of_endsIn ends last (by simp)
  have word : WordScope.unicode.holds last := by simpa [lastOf_eq, WordScope.at] using behind
  simp [word] at outside

theorem sparesWords_of_endsAt (ends : pattern.program.endsAt (.wordEdge .unicode)) :
    pattern.SparesWords := by
  rintro before front back found matched size ⟨behind, ahead⟩
  obtain ⟨later, way⟩ := matches_of_matchHere? matched size
  have edge := way.holds_of_endsAt ends
  simp [Assertion.holds, behind, ahead] at edge

theorem sparesWords_of_greed {label : Nat} {chars : CharSet}
    (ends : pattern.program.last = .greed label chars)
    (all : ∀ char, WordScope.unicode.holds char → chars.contains char) :
    pattern.SparesWords := by
  rintro before front back found matched size ⟨-, ahead⟩
  obtain ⟨char, next, word⟩ := (Option.any_eq_true _ _).mp ahead
  exact not_contains_of_matchHere? ends matched size char next (all char word)

end Pattern

end RuleLexer
