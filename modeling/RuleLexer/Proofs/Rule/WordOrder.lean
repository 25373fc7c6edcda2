import Mathlib.Data.List.Basic
import RuleLexer.Rule.Vocabulary

/-!
# The order of a vocabulary

The words of a vocabulary are put into their places one after the other. The order is total and no
two words share a place, so the list holds every word of the vocabulary once, and every word stands
before the ones that it precedes.

## Main results

* `Vocabulary.mem_sortedWords`: the list holds the words of the vocabulary.
* `Vocabulary.pairwise_sortedWords`: earlier words of the list precede later ones.
-/
namespace RuleLexer.Vocabulary

open Text

variable {left middle right word : List Char} {words : List (List Char)} {vocabulary : Vocabulary}

theorem precedes_iff : precedes left right ↔
    byteLength right < byteLength left ∨
      (byteLength left = byteLength right ∧ left < right) := by
  simp [precedes]

theorem precedes_trans (first : precedes left middle) (second : precedes middle right) :
    precedes left right := by
  rw [precedes_iff] at *
  rcases first with longer | ⟨same, before⟩
  · left
    omega
  · rcases second with longer | ⟨again, later⟩
    · left
      omega
    · exact .inr ⟨same.trans again, List.lt_trans before later⟩

/-- Of two words one precedes the other. -/
theorem precedes_total (different : left ≠ right) : precedes left right ∨ precedes right left := by
  rw [precedes_iff, precedes_iff]
  rcases Nat.lt_trichotomy (byteLength left) (byteLength right) with shorter | same | longer
  · exact .inr (.inl shorter)
  · rcases Std.lt_trichotomy left right with before | equal | after
    · exact .inl (.inr ⟨same, before⟩)
    · exact absurd equal different
    · exact .inr (.inr ⟨same.symm, after⟩)
  · exact .inl (.inl longer)

theorem byteLength_le_of_precedes (precedes : precedes left right) :
    byteLength right ≤ byteLength left := by
  rw [precedes_iff] at precedes
  omega

theorem not_precedes_self : ¬precedes word word := by
  simp [precedes_iff]

theorem mem_insertWord : right ∈ insertWord word words ↔ right = word ∨ right ∈ words := by
  induction words with
  | nil => simp [insertWord]
  | cons head rest ih =>
    rw [insertWord]
    split
    · next same => simp [same]
    · split
      · exact List.mem_cons
      · rw [List.mem_cons, ih, List.mem_cons, or_left_comm]

/-- A word is put behind the words that precede it and before the others. -/
theorem pairwise_insertWord (sorted : words.Pairwise (precedes · ·)) :
    (insertWord word words).Pairwise (precedes · ·) := by
  induction words with
  | nil => exact List.pairwise_singleton _ _
  | cons head rest ih =>
    obtain ⟨first, later⟩ := List.pairwise_cons.mp sorted
    rw [insertWord]
    split
    · exact sorted
    · next different =>
      split
      · next before =>
        refine List.pairwise_cons.mpr ⟨fun other member => ?_, sorted⟩
        rcases List.mem_cons.mp member with rfl | member
        · exact before
        · exact precedes_trans before (first other member)
      · next after =>
        refine List.pairwise_cons.mpr ⟨fun other member => ?_, ih later⟩
        rcases mem_insertWord.mp member with rfl | member
        · exact (precedes_total different).resolve_left after
        · exact first other member

/-- The list holds the words of the vocabulary. -/
theorem mem_sortedWords :
    word ∈ vocabulary.sortedWords ↔ ∃ listed ∈ vocabulary.words, listed.toList = word := by
  have listed (words : List (List Char)) : word ∈ words.foldr insertWord [] ↔ word ∈ words := by
    induction words with
    | nil => rfl
    | cons head rest ih => rw [List.foldr_cons, mem_insertWord, ih, List.mem_cons]
  rw [sortedWords, listed, List.mem_map]

/-- Earlier words of the list precede later ones. -/
theorem pairwise_sortedWords : vocabulary.sortedWords.Pairwise (precedes · ·) := by
  have sorted (words : List (List Char)) :
      (words.foldr insertWord []).Pairwise (precedes · ·) := by
    induction words with
    | nil => exact List.Pairwise.nil
    | cons head rest ih => exact pairwise_insertWord ih
  exact sorted _

theorem toList_pattern (vocabulary : Vocabulary) :
    vocabulary.pattern.toList = vocabulary.lead.toList ++ ("(?:".toList ++
      (alternatives vocabulary.sortedWords ++ (")".toList ++ vocabulary.tail.toList))) := by
  simp [pattern]

theorem sortedWords_ne_nil (nonempty : vocabulary.words ≠ []) : vocabulary.sortedWords ≠ [] := by
  obtain ⟨word, rest, known⟩ := List.exists_cons_of_ne_nil nonempty
  exact List.ne_nil_of_mem (mem_sortedWords.mpr ⟨word, known ▸ List.mem_cons_self, rfl⟩)

end RuleLexer.Vocabulary
