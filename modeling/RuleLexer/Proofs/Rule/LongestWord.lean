import RuleLexer.Proofs.Rule.Size

/-!
# The longest word

The words of a vocabulary are listed by their lengths so that the first one that fits is the longest
one. Where case matters a word takes exactly its own characters, so this is so: whatever the words
are, the pattern matches the longest one that stands at a place.

## Main results

* `Vocabulary.matchAt_longest`: the pattern of a vocabulary matches the longest word.
-/
namespace RuleLexer.Vocabulary

open Regex Text

variable {options : PatternOptions} {vocabulary : Vocabulary} {word piece text : List Char}
  {offset : Nat}

/-- A word stands at a place of a text, and behind it is an edge of a word if the vocabulary's tail
asks for one. -/
def StandsAt (vocabulary : Vocabulary) (text : List Char) (offset : Nat) (word : String) : Prop :=
  ∃ front back, text = front ++ (word.toList ++ back) ∧ byteLength front = offset ∧
    (vocabulary.tail = "\\b" →
      (Assertion.wordEdge .unicode).holds ⟨(front ++ word.toList).getLast?, back.head?⟩)

theorem mayEnd_iff {previous next : Option Char} : vocabulary.mayEnd previous next ↔
    (vocabulary.tail = "\\b" → (Assertion.wordEdge .unicode).holds ⟨previous, next⟩) := by
  simp [mayEnd, imp_iff_not_or]

theorem forall₂_takes_of_exact (exact : options.caseInsensitive = false) :
    List.Forall₂ (takes options · ·) word piece ↔ piece = word := by
  have same (left right : Char) : takes options left right ↔ left = right := by
    rw [takes, if_neg (by simp [exact]), beq_iff_eq, eq_comm]
  simp only [same, List.forall₂_eq_eq_eq]
  exact eq_comm

/-- Where case matters, a word takes its own characters. -/
theorem standing_iff_of_exact (exact : options.caseInsensitive = false) (word : String) :
    vocabulary.Standing options text offset word.toList piece ↔
      piece = word.toList ∧ vocabulary.StandsAt text offset word := by
  simp only [Standing, forall₂_takes_of_exact exact, mayEnd_iff, StandsAt]
  constructor
  · rintro ⟨front, back, rfl, size, rfl, edge⟩
    exact ⟨rfl, front, back, rfl, size, edge⟩
  · rintro ⟨rfl, front, back, rfl, size, edge⟩
    exact ⟨front, back, rfl, size, rfl, edge⟩

/-- The pattern of a vocabulary matches the longest word that stands at a place, and does not match
where no word stands. It compiles unless it is very long. -/
theorem matchAt_longest (vocabulary : Vocabulary) (options : PatternOptions)
    (nonempty : vocabulary.words ≠ []) (lead : vocabulary.lead = "")
    (tail : vocabulary.tail = "" ∨ vocabulary.tail = "\\b")
    (exact : options.caseInsensitive = false) :
    (∃ pattern, Pattern.compile options vocabulary.pattern = .ok pattern ∧
      ∀ text offset, IsBoundary text offset →
        ∃ result, pattern.matchAt text offset = .ok result ∧
          (∀ found, result = some found → ∃ word ∈ vocabulary.words,
            vocabulary.StandsAt text offset word ∧
            found.stop = offset + byteLength word.toList ∧
            ∀ other ∈ vocabulary.words, vocabulary.StandsAt text offset other →
              byteLength other.toList ≤ byteLength word.toList) ∧
          (result = none ↔
            ∀ word ∈ vocabulary.words, ¬vocabulary.StandsAt text offset word)) ∨
    Pattern.compile options vocabulary.pattern = .error .tooLarge ∧
      footprintLimit < 36 * byteLength vocabulary.pattern.toList := by
  rw [compile_pattern nonempty lead tail]
  by_cases large : (vocabulary.expr options).footprint > footprintLimit
  · rw [if_pos large]
    exact .inr ⟨rfl, Nat.lt_of_lt_of_le large (footprint_expr_le exact nonempty)⟩
  · rw [if_neg large]
    refine .inl ⟨_, rfl, fun text offset boundary => ?_⟩
    obtain ⟨result, matched, silent, first⟩ :=
      exists_matchAt vocabulary options vocabulary.pattern boundary
    refine ⟨result, matched, fun found known => ?_, ?_⟩
    · obtain ⟨_, listed, piece, standing, stop, others⟩ := first found known
      obtain ⟨word, member, rfl⟩ := mem_sortedWords.mp listed
      obtain ⟨rfl, stands⟩ := (standing_iff_of_exact exact word).mp standing
      refine ⟨word, member, stands, stop, fun other also standsToo => ?_⟩
      rcases others other.toList (mem_sortedWords.mpr ⟨other, also, rfl⟩) other.toList
        ((standing_iff_of_exact exact other).mpr ⟨rfl, standsToo⟩) with same | later
      · exact Nat.le_of_eq (congrArg byteLength same)
      · exact byteLength_le_of_precedes later
    · rw [silent]
      constructor
      · intro none word member stands
        exact none word.toList (mem_sortedWords.mpr ⟨word, member, rfl⟩) word.toList
          ((standing_iff_of_exact exact word).mpr ⟨rfl, stands⟩)
      · intro none _ listed piece standing
        obtain ⟨word, member, rfl⟩ := mem_sortedWords.mp listed
        exact none word member ((standing_iff_of_exact exact word).mp standing).2

/-- A word may hold characters that mean something in patterns, and begin like another word. -/
theorem matchAt_longest_of_bar :
    let vocabulary : Vocabulary := { words := ["", "(a", "(a|b"], tail := "\\b" }
    vocabulary.words ≠ [] ∧ vocabulary.lead = "" ∧
      (vocabulary.tail = "" ∨ vocabulary.tail = "\\b") ∧
      ({} : PatternOptions).caseInsensitive = false ∧
      ∃ pattern found, Pattern.compile {} vocabulary.pattern = .ok pattern ∧
        pattern.matchAt ['é', '(', 'a', '|', 'b'] 2 = .ok (some found) ∧ found.stop = 6 := by
  intro vocabulary
  have nonempty : vocabulary.words ≠ [] := List.cons_ne_nil _ _
  have tail : vocabulary.tail = "" ∨ vocabulary.tail = "\\b" := .inr rfl
  refine ⟨nonempty, rfl, tail, rfl, ?_⟩
  rcases matchAt_longest vocabulary {} nonempty rfl tail rfl with
    ⟨pattern, compiled, everywhere⟩ | ⟨-, large⟩
  · have stands : vocabulary.StandsAt ['é', '(', 'a', '|', 'b'] 2 "(a|b" :=
      ⟨['é'], [], rfl, rfl, fun _ => by decide +kernel⟩
    obtain ⟨result, matched, longest, silent⟩ :=
      everywhere _ 2 ⟨['é'], ['(', 'a', '|', 'b'], rfl, rfl⟩
    cases result with
    | none => exact absurd stands (silent.mp rfl "(a|b" (by simp [vocabulary]))
    | some found =>
      obtain ⟨word, member, -, stop, others⟩ := longest found rfl
      have long := others "(a|b" (by simp [vocabulary]) stands
      refine ⟨pattern, found, compiled, matched, ?_⟩
      simp only [vocabulary, List.mem_cons, List.not_mem_nil, or_false] at member
      rcases member with rfl | rfl | rfl
      · exact absurd long (by decide)
      · exact absurd long (by decide)
      · exact stop
  · exact absurd large (by
      rw [toList_pattern]
      decide +kernel)

end RuleLexer.Vocabulary
