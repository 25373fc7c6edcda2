import Mathlib.Data.List.Forall2
import RuleLexer.Proofs.Regex.Lookbehind
import RuleLexer.Proofs.Rule.Spelling

/-!
# Matches of a vocabulary

Each character of a word takes one character of the text: the same one, or one of its class if case
does not matter. The pattern of a vocabulary tries its words one after the other in their order,
with what it asks for behind a word, and stops behind the first one that fits.

## Main results

* `Vocabulary.offers_body`: the words between the parentheses are as good as the words in their
  order.
* `Vocabulary.stopHere?_ofExpr`: a match ends with the first word that fits.
* `Vocabulary.exists_matchAt`: so does a match at any place of a text.
-/
namespace RuleLexer.Vocabulary

open Regex Text

/-- A character of a word takes a character of the text. -/
def takes (options : PatternOptions) (char other : Char) : Bool :=
  if options.caseInsensitive then decide (other.toNat ∈ Unicode.Folding.orbit char.toNat)
  else other == char

/-- The characters of a word take the first characters of a text. -/
def spells (options : PatternOptions) : List Char → List Char → Bool
  | [], _ => true
  | _ :: _, [] => false
  | char :: word, other :: text => takes options char other && spells options word text

/-- A word may end between two characters. -/
def mayEnd (vocabulary : Vocabulary) (previous next : Option Char) : Bool :=
  vocabulary.tail != "\\b" || (Assertion.wordEdge .unicode).holds ⟨previous, next⟩

/-- A word fits at a place. -/
def fits (vocabulary : Vocabulary) (options : PatternOptions) (previous : Option Char)
    (text word : List Char) : Bool :=
  spells options word text &&
    vocabulary.mayEnd (lastOf previous (text.take word.length)) (text.drop word.length).head?

variable {options : PatternOptions} {vocabulary : Vocabulary} {char other : Char}
  {word text front : List Char} {words : List (List Char)} {spot : Spot}

/-! ### What a word takes -/

theorem spells_iff : spells options word text ↔
    ∃ front back, text = front ++ back ∧ List.Forall₂ (takes options · ·) word front := by
  induction word generalizing text with
  | nil => exact iff_of_true rfl ⟨[], text, rfl, .nil⟩
  | cons char word ih =>
    cases text with
    | nil =>
      refine iff_of_false Bool.false_ne_true ?_
      rintro ⟨front, back, whole, each⟩
      cases each with
      | cons => cases whole
    | cons other text =>
      rw [spells, Bool.and_eq_true, ih]
      constructor
      · rintro ⟨first, front, back, rfl, each⟩
        exact ⟨other :: front, back, rfl, .cons first each⟩
      · rintro ⟨front, back, whole, each⟩
        cases each with
        | cons first each =>
          cases whole
          exact ⟨first, _, _, rfl, each⟩

theorem takes_self : takes options char char := by
  unfold takes
  split
  · exact decide_eq_true (Unicode.Folding.mem_orbit_self _)
  · exact beq_self_eq_true _

theorem contains_iff_takes (folds : options.caseInsensitive = true) :
    (CharSet.single char).foldCase.contains other = takes options char other := by
  rw [Bool.eq_iff_iff, CharSet.contains_foldCase_single, takes, if_pos folds, decide_eq_true_eq]

/-- A character of a word ends behind the character that it takes. -/
theorem ends_spell : (spell options char).ends spot =
    if spot.rest.head?.any (takes options char) then [spot.past (spot.rest.take 1)] else [] := by
  unfold spell
  split
  · next folds =>
    have own : (CharSet.single char).foldCase.contains char := by
      rw [contains_iff_takes folds]
      exact takes_self
    rw [Expr.ends_ofSet ⟨char, own⟩, Expr.ends]
    cases spot.rest.head? with
    | none => rfl
    | some other => simp only [Option.any_some, contains_iff_takes folds]
  · next exact =>
    obtain ⟨previous, offset, _ | ⟨other, rest⟩⟩ := spot
    · rfl
    · by_cases same : other = char
      · simp [Expr.ends, takes, exact, same, List.cons_prefix_cons]
      · simp [Expr.ends, takes, exact, same, Ne.symm same, List.cons_prefix_cons]

theorem straight_spell : (spell options char).Straight := by
  unfold spell
  split
  · next folds =>
    refine Expr.straight_ofSet CharSet.ordered_foldCase_single ⟨char, ?_⟩
    rw [contains_iff_takes folds]
    exact takes_self
  · exact Expr.Simple.straight trivial

theorem straight_wordExpr : (wordExpr options word).Straight :=
  Expr.straight_sequence (by simp [straight_spell])

theorem ends_wordExpr : (wordExpr options word).ends spot =
    if spells options word spot.rest then [spot.past (spot.rest.take word.length)] else [] := by
  rw [wordExpr, Expr.ends_sequence]
  induction word generalizing spot with
  | nil => simp [Expr.endsInTurn, spells, Spot.past, lastOf, byteLength]
  | cons char word ih =>
    rw [List.map_cons, Expr.endsInTurn, ends_spell]
    obtain ⟨previous, offset, _ | ⟨other, rest⟩⟩ := spot
    · rfl
    · by_cases first : takes options char other
      · have onwards := @ih (Spot.past ⟨previous, offset, other :: rest⟩ [other])
        simp only [Spot.past, List.length_singleton, List.drop_one, List.tail_cons] at onwards
        simpa [spells, first, Spot.past, lastOf, byteLength, Nat.add_assoc] using onwards
      · simp [spells, first]

/-! ### The whole pattern -/

/-- The words between the parentheses are as good as the words in their order. -/
theorem offers_body : (body options words).Offers (words.map (wordExpr options)) := by
  have straight : ∀ expr ∈ words.map (wordExpr options), expr.Straight := by
    simp [straight_wordExpr]
  unfold body
  split
  · exact Expr.offers_ofBranches straight
  · exact Expr.offers_choice straight

theorem endsInTurn_behind : Expr.endsInTurn vocabulary.behind spot =
    if vocabulary.mayEnd spot.previous spot.rest.head? then [spot] else [] := by
  unfold behind mayEnd
  by_cases tail : vocabulary.tail = "\\b"
  · rw [if_pos tail, Expr.endsInTurn_singleton]
    simp only [tail, bne_self_eq_false, Bool.false_or]
    rfl
  · simp [tail, Expr.endsInTurn]

theorem flat_expr : (vocabulary.expr options).flat := by
  refine Expr.flat_sequence (List.forall_mem_cons.mpr ⟨offers_body.1, ?_⟩)
  unfold behind
  split <;> simp [Expr.flat]

/-- A search ends with the first word that fits. -/
theorem stop?_ofExpr (previous : Option Char) (text : List Char) :
    (Program.ofExpr (vocabulary.expr options)).stop? previous text =
      vocabulary.sortedWords.findSome? fun word =>
        if vocabulary.fits options previous text word then
          some (byteLength (text.take word.length)) else none := by
  have heads : ((Program.ofExpr (vocabulary.expr options)).ends ⟨previous, 0, text⟩).head? =
      ((Expr.anyOf (vocabulary.sortedWords.map (wordExpr options)) ⟨previous, 0, text⟩).flatMap
        (Expr.endsInTurn vocabulary.behind)).head? := by
    rw [Program.ends_ofExpr flat_expr, expr, Expr.ends_sequence, Expr.endsInTurn]
    exact offers_body.2 _ _
  rw [Program.stop?_eq_head?, heads, Expr.anyOf, List.flatMap_map, List.flatMap_assoc,
    List.head?_flatMap, List.map_findSome?]
  congr 1
  funext word
  simp only [Function.comp_apply, ends_wordExpr, fits]
  by_cases spelled : spells options word text
  · rw [if_pos spelled, List.flatMap_singleton, endsInTurn_behind]
    have left : text.drop (text.take word.length).length = text.drop word.length := by
      have cut : (text.take word.length ++ text.drop word.length).drop
          (text.take word.length).length = text.drop word.length := List.drop_left
      rwa [List.take_append_drop] at cut
    simp only [Spot.past, left, spelled, Bool.true_and, Nat.zero_add]
    split <;> rfl
  · simp [spelled]

/-- A match ends with the first word that fits. -/
theorem stopHere?_ofExpr (source : String) (before after : List Char) :
    (Pattern.ofExpr source none (vocabulary.expr options)).stopHere? before after =
      vocabulary.sortedWords.findSome? fun word =>
        if vocabulary.fits options before.head? after word then
          some (byteLength (after.take word.length)) else none :=
  stop?_ofExpr _ _

/-! ### The text around a match -/

/-- A piece of a text at a place is what a word takes, and the word may end where the piece does. -/
def Standing (vocabulary : Vocabulary) (options : PatternOptions) (text : List Char) (offset : Nat)
    (word piece : List Char) : Prop :=
  ∃ front back, text = front ++ (piece ++ back) ∧ byteLength front = offset ∧
    List.Forall₂ (takes options · ·) word piece ∧
    vocabulary.mayEnd (front ++ piece).getLast? back.head?

theorem fits_iff {before after : List Char} : vocabulary.fits options before.head? after word ↔
    ∃ piece back, after = piece ++ back ∧ List.Forall₂ (takes options · ·) word piece ∧
      vocabulary.mayEnd (before.reverse ++ piece).getLast? back.head? := by
  have last (piece : List Char) :
      lastOf before.head? piece = (before.reverse ++ piece).getLast? := by
    rw [lastOf_head?, List.head?_append, List.getLast?_append]
    simp
  rw [fits, Bool.and_eq_true, spells_iff]
  constructor
  · rintro ⟨⟨piece, back, rfl, each⟩, ends⟩
    rw [List.take_left' each.length_eq.symm, List.drop_left' each.length_eq.symm, last] at ends
    exact ⟨piece, back, rfl, each, ends⟩
  · rintro ⟨piece, back, rfl, each, ends⟩
    refine ⟨⟨piece, back, rfl, each⟩, ?_⟩
    rwa [List.take_left' each.length_eq.symm, List.drop_left' each.length_eq.symm, last]

/-- What stands at a place of a text begins the text from the place on. -/
theorem standing_iff {before after piece : List Char} :
    vocabulary.Standing options (before.reverse ++ after) (byteLength before.reverse) word piece ↔
      ∃ back, after = piece ++ back ∧ List.Forall₂ (takes options · ·) word piece ∧
        vocabulary.mayEnd (before.reverse ++ piece).getLast? back.head? := by
  constructor
  · rintro ⟨front, back, whole, size, each, ends⟩
    obtain ⟨rfl, rfl⟩ := append_inj_of_byteLength_eq whole size.symm
    exact ⟨back, rfl, each, ends⟩
  · rintro ⟨back, rfl, each, ends⟩
    exact ⟨before.reverse, back, rfl, rfl, each, ends⟩

/-- A match at a place of a text ends with what the first of the words takes that stand there. -/
theorem exists_matchAt (vocabulary : Vocabulary) (options : PatternOptions) (source : String)
    {text : List Char} {offset : Nat} (boundary : IsBoundary text offset) :
    ∃ result, (Pattern.ofExpr source none (vocabulary.expr options)).matchAt text offset =
        .ok result ∧
      (result = none ↔ ∀ word ∈ vocabulary.sortedWords, ∀ piece,
        ¬vocabulary.Standing options text offset word piece) ∧
      ∀ found, result = some found → ∃ word ∈ vocabulary.sortedWords, ∃ piece,
        vocabulary.Standing options text offset word piece ∧
        found.stop = offset + byteLength piece ∧
        ∀ other ∈ vocabulary.sortedWords, ∀ further,
          vocabulary.Standing options text offset other further →
            other = word ∨ precedes word other := by
  obtain ⟨front, after, rfl, rfl⟩ := boundary
  obtain ⟨before, rfl⟩ : ∃ before : List Char, front = before.reverse := ⟨front.reverse, by simp⟩
  let pattern := Pattern.ofExpr source none (vocabulary.expr options)
  have stops : (pattern.matchHere? before after).map Match.stop =
      vocabulary.sortedWords.findSome? fun word =>
        if vocabulary.fits options before.head? after word then
          some (byteLength (after.take word.length)) else none := by
    rw [← Pattern.stopHere?_eq, stopHere?_ofExpr]
  have stands (word : List Char) : vocabulary.fits options before.head? after word ↔
      ∃ piece, vocabulary.Standing options (before.reverse ++ after) (byteLength before.reverse)
        word piece := by
    rw [fits_iff]
    exact exists_congr fun piece => standing_iff.symm
  refine ⟨_, Pattern.matchAt_append pattern before.reverse after, ?_, ?_⟩
  · rw [List.reverse_reverse, Option.map_eq_none_iff, ← Option.map_eq_none_iff (f := Match.stop),
      stops, List.findSome?_eq_none_iff]
    simp [stands]
  · intro found matched
    rw [List.reverse_reverse, Option.map_eq_some_iff] at matched
    obtain ⟨here, known, rfl⟩ := matched
    rw [known, Option.map_some, eq_comm, List.findSome?_eq_some_iff] at stops
    obtain ⟨earlier, word, later, listed, stop, missed⟩ := stops
    split at stop
    · next fitting =>
      obtain ⟨piece, back, rfl, each, ends⟩ := fits_iff.mp fitting
      rw [List.take_left' each.length_eq.symm, Option.some.injEq] at stop
      refine ⟨word, by simp [listed], piece, standing_iff.mpr ⟨back, rfl, each, ends⟩,
        congrArg _ stop.symm, ?_⟩
      intro other member further standing
      rw [listed, List.mem_append, List.mem_cons] at member
      rcases member with before | same | after
      · -- A word before the first one that fits does not fit.
        have silent := missed other before
        rw [if_pos ((stands other).mpr ⟨further, standing⟩)] at silent
        cases silent
      · exact .inl same
      · have sorted : vocabulary.sortedWords.Pairwise (precedes · ·) := pairwise_sortedWords
        rw [listed] at sorted
        exact .inr ((List.pairwise_cons.mp (List.pairwise_append.mp sorted).2.1).1 other after)
    · cases stop

end RuleLexer.Vocabulary
