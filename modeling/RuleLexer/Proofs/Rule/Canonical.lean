import Mathlib.Data.List.Destutter
import RuleLexer.Proofs.Rule.WordOrder

/-!
# A canonical form of words

Two vocabularies with the same pieces around their words have the same pattern exactly if they have
the same words. The order of words is total, so the order in which they are listed and how often
they are listed leave no trace. And nothing of the words is lost: a bar that belongs to a word is
escaped, so the bars that are not escaped are the ones between the words, and the words can be read
off again, whatever characters they are made of. Only a list without words is written like the list
of the empty word.

## Main results

* `Vocabulary.destutter_eq_sortedWords`: sorting the words in any way and leaving out repeated
  neighbours gives the words in their order.
* `Vocabulary.readWords_alternatives`: the words can be read off their alternatives.
* `Vocabulary.pattern_eq_iff`: patterns are the same exactly if the words are.
-/
namespace RuleLexer.Vocabulary

variable {left right word rest : List Char} {words others sorted : List (List Char)}
  {vocabulary : Vocabulary}

/-! ### One order -/

/-- There is only one list of given words in which each word precedes the later ones. -/
theorem eq_of_pairwise_precedes (first : words.Pairwise (precedes · ·))
    (second : others.Pairwise (precedes · ·)) (same : ∀ word, word ∈ words ↔ word ∈ others) :
    words = others := by
  have distinct {words : List (List Char)} (sorted : words.Pairwise (precedes · ·)) :
      words.Nodup := by
    apply sorted.imp
    rintro word _ before rfl
    exact not_precedes_self before
  have perm : words.Perm others :=
    (List.perm_ext_iff_of_nodup (distinct first) (distinct second)).mpr same
  apply perm.eq_of_pairwise _ first second
  intro left right _ _ before after
  exact absurd (precedes_trans before after) not_precedes_self

/-- However words are sorted, what is left of them without repeated neighbours is the list that a
vocabulary makes of them. -/
theorem destutter_eq_sortedWords (perm : sorted.Perm (vocabulary.words.map String.toList))
    (ordered : sorted.Pairwise fun left right => left = right ∨ precedes left right) :
    sorted.destutter (· ≠ ·) = vocabulary.sortedWords := by
  have antisymm :
      Std.Antisymm fun left right : List Char => left = right ∨ precedes left right := by
    constructor
    rintro left right (same | before) (back | after)
    · exact same
    · exact same
    · exact back.symm
    · exact absurd (precedes_trans before after) not_precedes_self
  rw [ordered.destutter_eq_dedup]
  apply eq_of_pairwise_precedes _ pairwise_sortedWords
  · intro word
    rw [List.mem_dedup, perm.mem_iff, List.mem_map, mem_sortedWords]
  · -- Of what is sorted, different words are left, and so each precedes the later ones.
    have both := (ordered.sublist (List.dedup_sublist sorted)).and (List.nodup_dedup sorted)
    exact both.imp fun ⟨before, different⟩ => before.resolve_left different

/-! ### Reading the words off -/

/-- The words between bars. What follows a backslash is a character of a word. -/
def readWords : List Char → List (List Char)
  | [] => [[]]
  | '\\' :: char :: rest => (readWords rest).modifyHead (char :: ·)
  | '|' :: rest => [] :: readWords rest
  | char :: rest => (readWords rest).modifyHead (char :: ·)

theorem readWords_escapeWord_append :
    readWords (escapeWord word ++ rest) = (readWords rest).modifyHead (word ++ ·) := by
  induction word with
  | nil => exact (congrFun List.modifyHead_id (readWords rest)).symm
  | cons char word ih =>
    have later : (readWords (escapeWord word ++ rest)).modifyHead (char :: ·) =
        (readWords rest).modifyHead (char :: word ++ ·) := by
      rw [ih, List.modifyHead_modifyHead]
      rfl
    rw [escapeWord, List.flatMap_cons, ← escapeWord]
    split
    · exact later
    next ordinary =>
      -- A character that is not escaped is neither a bar nor a backslash.
      rw [← later]
      change readWords (char :: (escapeWord word ++ rest)) = _
      rw [readWords]
      · rintro _ _ rfl -
        exact ordinary (by decide)
      · rintro rfl
        exact ordinary (by decide)

theorem readWords_alternatives (nonempty : words ≠ []) :
    readWords (alternatives words) = words := by
  induction words with
  | nil => exact absurd rfl nonempty
  | cons word rest ih =>
    cases rest with
    | nil =>
      have alone : readWords (escapeWord word ++ []) = (readWords []).modifyHead (word ++ ·) :=
        readWords_escapeWord_append
      simpa [alternatives, readWords] using alone
    | cons next rest =>
      rw [alternatives, readWords_escapeWord_append, readWords, ih (List.cons_ne_nil _ _)]
      · simp
      · exact List.cons_ne_nil _ _

/-! ### Patterns -/

/-- **A canonical form.** Two vocabularies that list at least one word each, with the same pieces
around them, have the same pattern exactly if each word of one of them is a word of the other. -/
theorem pattern_eq_iff (words others : List String) (lead tail : String) (nonempty : words ≠ [])
    (nonemptyToo : others ≠ []) :
    (⟨words, lead, tail⟩ : Vocabulary).pattern = (⟨others, lead, tail⟩ : Vocabulary).pattern ↔
      ∀ word, word ∈ words ↔ word ∈ others := by
  let first : Vocabulary := ⟨words, lead, tail⟩
  let second : Vocabulary := ⟨others, lead, tail⟩
  have listed (vocabulary : Vocabulary) (word : String) :
      word.toList ∈ vocabulary.sortedWords ↔ word ∈ vocabulary.words := by
    simp [mem_sortedWords, String.toList_inj]
  constructor
  · intro same word
    have texts : first.pattern.toList = second.pattern.toList := congrArg String.toList same
    rw [toList_pattern, toList_pattern] at texts
    have between : alternatives first.sortedWords = alternatives second.sortedWords :=
      List.append_cancel_right (List.append_cancel_left (List.append_cancel_left texts))
    have orders : first.sortedWords = second.sortedWords := by
      rw [← readWords_alternatives (sortedWords_ne_nil nonempty), between,
        readWords_alternatives (sortedWords_ne_nil nonemptyToo)]
    rw [← listed first word, orders, listed second word]
  · intro same
    have orders : first.sortedWords = second.sortedWords := by
      apply eq_of_pairwise_precedes pairwise_sortedWords pairwise_sortedWords
      intro word
      rw [mem_sortedWords, mem_sortedWords]
      exact exists_congr fun listed => and_congr_left fun _ => same listed
    unfold pattern
    rw [orders]

/-- Words with a bar and a backslash, and the empty one, in another order and with repetitions. The
bar of a word is not the bar between two words. -/
theorem pattern_eq_iff_of_bar :
    let words := ["a|b", "\\", ""]
    let others := ["", "\\", "a|b", "\\"]
    let pieces := ["a", "b", "\\", ""]
    words ≠ [] ∧ others ≠ [] ∧
      (⟨words, "<", ">"⟩ : Vocabulary).pattern = (⟨others, "<", ">"⟩ : Vocabulary).pattern ∧
      (⟨words, "<", ">"⟩ : Vocabulary).pattern ≠ (⟨pieces, "<", ">"⟩ : Vocabulary).pattern := by
  intro words others pieces
  have nonempty : words ≠ [] := List.cons_ne_nil _ _
  have nonemptyToo : others ≠ [] := List.cons_ne_nil _ _
  refine ⟨nonempty, nonemptyToo, ?_, ?_⟩
  · rw [pattern_eq_iff words others "<" ">" nonempty nonemptyToo]
    intro word
    simp only [words, others, List.mem_cons, List.not_mem_nil, or_false]
    tauto
  · intro same
    have bar := (pattern_eq_iff words _ "<" ">" nonempty (List.cons_ne_nil _ _)).mp same "a|b"
    simp [words] at bar

end RuleLexer.Vocabulary
