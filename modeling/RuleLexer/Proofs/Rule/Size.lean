import Mathlib.Algebra.GroupWithZero.Nat
import RuleLexer.Proofs.Rule.Matching

/-!
# The size of a vocabulary

Where case matters, a word is a literal. Literals share no beginning that could be taken out, so the
words are one set if all of them are single characters, and branches one after the other if they are
not. Either way the size of the program is within a factor of the length of the pattern, so only a
long pattern can be too large.

## Main results

* `Vocabulary.footprint_expr_le`: the bound.
-/
namespace RuleLexer

open Regex Text

namespace Regex.Expr

variable {exprs parts : List Expr}

theorem footprint_literal (chars : List Char) :
    (literal chars).footprint = 32 * (chars.map Char.utf8Size).sum := rfl

theorem footprint_concat (head tail : Expr) :
    (concat head tail).footprint = head.footprint + tail.footprint := rfl

theorem sum_footprint_parts_le (expr : Expr) :
    (expr.parts.map footprint).sum ≤ expr.footprint := by
  induction expr with
  | concat head tail ihHead ihTail =>
    rw [parts, List.map_cons, List.sum_cons, footprint_concat]
    exact Nat.add_le_add_left ihTail _
  | empty => exact Nat.zero_le _
  | literal | set | look | repetition | capture | alternation => simp [parts]

theorem footprint_ofParts_le : (ofParts parts).footprint ≤ (parts.map footprint).sum + 32 := by
  induction parts with
  | nil => exact Nat.le_refl _
  | cons part rest ih =>
    cases rest with
    | nil => simp [ofParts]
    | cons next rest =>
      have whole : (ofParts (part :: next :: rest)).footprint =
          part.footprint + (ofParts (next :: rest)).footprint := rfl
      rw [whole, List.map_cons, List.sum_cons]
      omega

theorem sum_footprint_joinLiterals :
    ((joinLiterals parts).map footprint).sum = (parts.map footprint).sum := by
  induction parts with
  | nil => rfl
  | cons part rest ih =>
    rw [List.map_cons, List.sum_cons, ← ih]
    conv_lhs => unfold joinLiterals
    split
    · next left right more joined =>
      rw [joined]
      simp [footprint_literal, Nat.mul_add, Nat.add_assoc]
    · rfl

theorem footprint_sequence_le (exprs : List Expr) :
    (sequence exprs).footprint ≤ (exprs.map footprint).sum + 32 := by
  have flat : ((exprs.flatMap Expr.parts).map footprint).sum ≤ (exprs.map footprint).sum := by
    induction exprs with
    | nil => exact Nat.le_refl _
    | cons expr rest ih =>
      rw [List.flatMap_cons, List.map_append, List.sum_append, List.map_cons, List.sum_cons]
      exact Nat.add_le_add (sum_footprint_parts_le expr) ih
  calc (sequence exprs).footprint
      ≤ ((joinLiterals (exprs.flatMap Expr.parts)).map footprint).sum + 32 := footprint_ofParts_le
    _ = ((exprs.flatMap Expr.parts).map footprint).sum + 32 := by rw [sum_footprint_joinLiterals]
    _ ≤ (exprs.map footprint).sum + 32 := Nat.add_le_add_right flat _

theorem footprint_ofBranches_le (exprs : List Expr) :
    (ofBranches exprs).footprint ≤ (exprs.map footprint).sum + 4 * exprs.length + 32 := by
  induction exprs with
  | nil => exact Nat.le_refl 32
  | cons expr rest ih =>
    cases rest with
    | nil => simp [ofBranches]; omega
    | cons next rest =>
      have whole : (ofBranches (expr :: next :: rest)).footprint =
          expr.footprint + (ofBranches (next :: rest)).footprint + 4 := rfl
      rw [whole, List.map_cons, List.sum_cons, List.length_cons]
      omega

end Regex.Expr

/-! ### Sets -/

namespace CharSet

variable {range : Nat × Nat} {ranges : List (Nat × Nat)} {low high : Nat}

theorem length_insertRange : (insertRange range ranges).length = ranges.length + 1 := by
  induction ranges with
  | nil => rfl
  | cons head rest ih =>
    rw [insertRange]
    split
    · rfl
    · rw [List.length_cons, ih, List.length_cons]

theorem length_joinFrom_le : (joinFrom low high ranges).length ≤ ranges.length + 1 := by
  induction ranges generalizing low high with
  | nil => exact Nat.le_refl _
  | cons head rest ih =>
    rw [joinFrom]
    split
    · exact Nat.le_succ_of_le ih
    · exact Nat.succ_le_succ ih

/-- A set has no more ranges than it was built from. -/
theorem length_ofRanges_le (ranges : List (Nat × Nat)) :
    (ofRanges ranges).ranges.length ≤ ranges.length := by
  have sorted : (ranges.foldr insertRange []).length = ranges.length := by
    induction ranges with
    | nil => rfl
    | cons head rest ih => rw [List.foldr_cons, length_insertRange, ih, List.length_cons]
  rw [← sorted, ofRanges]
  cases ranges.foldr insertRange [] with
  | nil => exact Nat.le_refl _
  | cons head rest => exact length_joinFrom_le

end CharSet

theorem Regex.Expr.footprint_ofSet_le (chars : CharSet) :
    (ofSet chars).footprint ≤ 64 * chars.ranges.length + 64 := by
  have each (ranges : List (Nat × Nat)) :
      (ranges.map fun range => if range.2 < 0x80 then 8 else 64).sum ≤ 64 * ranges.length := by
    induction ranges with
    | nil => exact Nat.le_refl _
    | cons range rest ih =>
      rw [List.map_cons, List.sum_cons, List.length_cons]
      split <;> omega
  have set : (set chars).footprint ≤ 64 * chars.ranges.length + 64 :=
    Nat.add_le_add (each _) (by decide)
  unfold ofSet
  split
  · next low high ranges =>
    split
    · have size := Char.utf8Size_le_four (Char.ofNat low)
      rw [ranges]
      simp only [footprint_literal, List.map_cons, List.map_nil, List.sum_cons, List.sum_nil]
      simp only [List.length_singleton]
      omega
    · exact set
  · exact set

namespace Vocabulary

variable {options : PatternOptions} {vocabulary : Vocabulary} {word : List Char}
  {words : List (List Char)}

theorem sum_utf8Size (text : List Char) : (text.map Char.utf8Size).sum = byteLength text := by
  induction text with
  | nil => rfl
  | cons char rest ih => rw [List.map_cons, List.sum_cons, ih, byteLength]

/-- Where case matters, a word is a literal. -/
theorem wordExpr_of_exact (exact : options.caseInsensitive = false) :
    wordExpr options word = if word = [] then .empty else .literal word := by
  have spelled : spell options = fun char => .literal [char] := by
    funext char
    simp [spell, exact]
  have joined (char : Char) (rest : List Char) :
      Expr.joinLiterals ((char :: rest).map fun char => .literal [char]) =
        [.literal (char :: rest)] := by
    induction rest generalizing char with
    | nil => rfl
    | cons next rest ih =>
      rw [List.map_cons]
      unfold Expr.joinLiterals
      rw [ih]
      rfl
  cases word with
  | nil => rfl
  | cons char rest =>
    have parts : ((char :: rest).map (spell options)).flatMap Expr.parts =
        (char :: rest).map fun char => .literal [char] := by
      rw [spelled, List.flatMap_map, List.map_eq_flatMap]
      rfl
    rw [wordExpr, Expr.sequence, parts, joined]
    rfl

theorem footprint_wordExpr_le (exact : options.caseInsensitive = false) (word : List Char) :
    (wordExpr options word).footprint ≤ 32 * byteLength word + 32 := by
  rw [wordExpr_of_exact exact]
  split
  · exact Nat.le_add_left _ _
  · rw [Expr.footprint_literal, sum_utf8Size]
    exact Nat.le_add_right _ _

theorem sum_footprint_le (exact : options.caseInsensitive = false) (words : List (List Char)) :
    ((words.map (wordExpr options)).map Expr.footprint).sum ≤
      32 * (words.map byteLength).sum + 32 * words.length := by
  induction words with
  | nil => exact Nat.le_refl _
  | cons word rest ih =>
    have first := footprint_wordExpr_le exact word
    simp only [List.map_cons, List.sum_cons, List.length_cons] at ih ⊢
    omega

theorem length_le_sum_byteLength (filled : ∀ word ∈ words, word ≠ []) :
    words.length ≤ (words.map byteLength).sum := by
  induction words with
  | nil => exact Nat.le_refl _
  | cons word rest ih =>
    obtain ⟨first, later⟩ := List.forall_mem_cons.mp filled
    have size := byteLength_pos first
    have sizes := ih later
    rw [List.map_cons, List.sum_cons, List.length_cons]
    omega

/-- The words are one set of single characters, or branches one after the other. -/
theorem choice_of_exact (exact : options.caseInsensitive = false) (words : List (List Char)) :
    (∃ chars, Expr.singleChars? (words.map (wordExpr options)) = some chars ∧
      Expr.choice (words.map (wordExpr options)) = .ofSet chars) ∨
    Expr.choice (words.map (wordExpr options)) = .ofBranches (words.map (wordExpr options)) := by
  have single : ∀ expr ∈ words.map (wordExpr options), (∀ set, expr ≠ .set set) ∧
      Expr.commonBeginning.sequenceParts expr = [] := by
    intro expr member
    obtain ⟨word, -, rfl⟩ := List.mem_map.mp member
    rw [wordExpr_of_exact exact]
    split <;> exact ⟨by simp, rfl⟩
  have straight : ∀ expr ∈ words.map (wordExpr options), expr.Straight := by
    simp [straight_wordExpr]
  rw [Expr.choice, Expr.flatMap_branches straight]
  generalize words.map (wordExpr options) = exprs at single
  unfold Expr.choiceOf
  split
  · exact .inr rfl
  · exact .inr rfl
  · next none one =>
    obtain ⟨first, rest, rfl⟩ := List.exists_cons_of_ne_nil none
    obtain ⟨noSet, noParts⟩ := single first List.mem_cons_self
    split
    · next chars read => exact .inl ⟨chars, read, rfl⟩
    · next read =>
      obtain ⟨sets, same, -⟩ := Expr.unionOfSets?_eq_some read
      cases sets with
      | nil => cases same
      | cons set sets => exact absurd (List.cons.inj same).1 (noSet set)
    · next part shared known =>
      have start := Expr.commonBeginning_isPrefix (List.mem_cons_self (a := first) (l := rest))
      rw [noParts, known] at start
      exact absurd (List.prefix_nil.mp start) (List.cons_ne_nil _ _)
    · exact .inr rfl

theorem footprint_body_le (exact : options.caseInsensitive = false) (words : List (List Char)) :
    (body options words).footprint ≤
      32 * (words.map byteLength).sum + 36 * words.length + 64 := by
  have total := sum_footprint_le exact words
  unfold body
  split
  · next word =>
    have size := footprint_wordExpr_le exact word
    simp only [List.map_cons, List.map_nil, List.sum_cons, List.sum_nil, List.length_singleton]
    omega
  · rcases choice_of_exact exact words with ⟨chars, read, same⟩ | same
    · obtain ⟨singles, known, rfl⟩ := Expr.singleChars?_eq_some read
      have count : singles.length = words.length := by
        simpa using (congrArg List.length known).symm
      rw [same]
      have size := Expr.footprint_ofSet_le
        (.ofRanges (singles.map fun char => (char.toNat, char.toNat)))
      have ranges := CharSet.length_ofRanges_le
        (singles.map fun char => (char.toNat, char.toNat))
      rw [List.length_map] at ranges
      have filled : ∀ word ∈ words, word ≠ [] := by
        rintro _ member rfl
        obtain ⟨char, -, same⟩ : ∃ char ∈ singles, Expr.literal [char] = wordExpr options [] :=
          List.mem_map.mp (known ▸ List.mem_map_of_mem member)
        cases same
      have bytes := length_le_sum_byteLength filled
      omega
    · rw [same]
      have size := Expr.footprint_ofBranches_le (words.map (wordExpr options))
      rw [List.length_map] at size
      omega

theorem byteLength_escapeWord (word : List Char) :
    byteLength word ≤ byteLength (escapeWord word) := by
  induction word with
  | nil => exact Nat.le_refl _
  | cons char rest ih =>
    rw [escapeWord, List.flatMap_cons, byteLength_append, byteLength]
    refine Nat.add_le_add ?_ ih
    split <;> simp [byteLength]

/-- Between the parentheses stand the words and the bars between them. -/
theorem byteLength_alternatives (nonempty : words ≠ []) :
    (words.map byteLength).sum + words.length ≤ byteLength (alternatives words) + 1 := by
  induction words with
  | nil => exact absurd rfl nonempty
  | cons word rest ih =>
    have first := byteLength_escapeWord word
    cases rest with
    | nil =>
      simp only [alternatives, List.map_cons, List.map_nil, List.sum_cons, List.sum_nil,
        List.length_singleton]
      omega
    | cons next rest =>
      have later := ih (List.cons_ne_nil _ _)
      have bar : Char.utf8Size '|' = 1 := rfl
      simp only [alternatives, byteLength_append, byteLength, bar]
      rw [List.map_cons, List.sum_cons, List.length_cons]
      omega

theorem footprint_behind (vocabulary : Vocabulary) :
    (vocabulary.behind.map Expr.footprint).sum ≤ 36 * byteLength vocabulary.tail.toList := by
  unfold behind
  split
  · next edge =>
    rw [edge]
    decide
  · exact Nat.zero_le _

/-- The size of the program is within a factor of the length of the pattern. -/
theorem footprint_expr_le (exact : options.caseInsensitive = false)
    (nonempty : vocabulary.words ≠ []) :
    (vocabulary.expr options).footprint ≤ 36 * byteLength vocabulary.pattern.toList := by
  have whole := Expr.footprint_sequence_le
    (body options vocabulary.sortedWords :: vocabulary.behind)
  have inner := footprint_body_le exact vocabulary.sortedWords
  have outer := footprint_behind vocabulary
  have words := byteLength_alternatives (sortedWords_ne_nil nonempty)
  have opening : byteLength "(?:".toList = 3 := by decide
  have closing : byteLength ")".toList = 1 := by decide
  rw [List.map_cons, List.sum_cons] at whole
  rw [expr, toList_pattern]
  simp only [byteLength_append, opening, closing]
  omega

end Vocabulary

end RuleLexer
