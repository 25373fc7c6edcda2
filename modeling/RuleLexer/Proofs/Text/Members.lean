import RuleLexer.Proofs.Unicode.Folding

/-!
# Members of character sets

Membership is decided by walking ranges that are in increasing order. Sets are built by sorting
ranges and joining those that touch, and none of this adds or loses a value: what is in the set is
what lies in one of the ranges that it was built from. The ends of a range need not be in order; a
range whose ends are not holds nothing.

## Main results

* `CharSet.containsValue_ofRanges`, `CharSet.containsValue_union`: the members of what is built from
  ranges and from two sets.
* `CharSet.contains_foldCase_single`: a folded character holds exactly the characters of its class.
-/
namespace RuleLexer.CharSet

/-- A value lies between the ends of a range. -/
def Covers (range : Nat × Nat) (value : Nat) : Prop := range.1 ≤ value ∧ value ≤ range.2

/-- Ranges in increasing order of their lower ends. -/
def Ordered (ranges : List (Nat × Nat)) : Prop := ranges.Pairwise fun left right => left.1 ≤ right.1

section Ranges

variable {range : Nat × Nat} {ranges : List (Nat × Nat)} {low high value : Nat}

theorem inRanges_iff (ordered : Ordered ranges) :
    inRanges value ranges ↔ ∃ range ∈ ranges, Covers range value := by
  induction ranges with
  | nil => simp [inRanges]
  | cons head rest ih =>
    obtain ⟨above, ordered⟩ := List.pairwise_cons.mp ordered
    rw [inRanges, List.exists_mem_cons_iff, ← ih ordered]
    by_cases below : value < head.1
    · -- No later range reaches down to the value.
      have missing : ¬inRanges value rest := by
        rw [ih ordered]
        rintro ⟨other, member, covers, -⟩
        have := above other member
        omega
      simp [below, Covers, missing, Nat.not_le.mpr below]
    · by_cases within : value ≤ head.2
      · simp [below, within, Covers, Nat.not_lt.mp below]
      · simp [below, within, Covers]

theorem mem_insertRange {other : Nat × Nat} :
    other ∈ insertRange range ranges ↔ other = range ∨ other ∈ ranges := by
  induction ranges with
  | nil => simp [insertRange]
  | cons head rest ih =>
    rw [insertRange]
    split
    · exact List.mem_cons
    · rw [List.mem_cons, ih, List.mem_cons, or_left_comm]

theorem ordered_insertRange (ordered : Ordered ranges) : Ordered (insertRange range ranges) := by
  induction ranges with
  | nil => exact List.pairwise_singleton _ _
  | cons head rest ih =>
    obtain ⟨above, later⟩ := List.pairwise_cons.mp ordered
    rw [insertRange]
    split
    · next first =>
      refine List.pairwise_cons.mpr ⟨fun other member => ?_, ordered⟩
      rcases List.mem_cons.mp member with rfl | member
      · exact first
      · exact Nat.le_trans first (above other member)
    · next second =>
      refine List.pairwise_cons.mpr ⟨fun other member => ?_, ih later⟩
      rcases mem_insertRange.mp member with rfl | member
      · exact Nat.le_of_not_le second
      · exact above other member

theorem mem_foldr_insertRange : range ∈ ranges.foldr insertRange [] ↔ range ∈ ranges := by
  induction ranges with
  | nil => rfl
  | cons head rest ih => rw [List.foldr_cons, mem_insertRange, ih, List.mem_cons]

theorem ordered_foldr_insertRange : Ordered (ranges.foldr insertRange []) := by
  induction ranges with
  | nil => exact List.Pairwise.nil
  | cons head rest ih => exact ordered_insertRange ih

theorem le_of_mem_joinFrom (ordered : Ordered ((low, high) :: ranges))
    (member : range ∈ joinFrom low high ranges) : low ≤ range.1 := by
  induction ranges generalizing low high with
  | nil =>
    exact Nat.le_of_eq (congrArg Prod.fst (List.mem_singleton.mp member)).symm
  | cons head rest ih =>
    obtain ⟨above, later⟩ := List.pairwise_cons.mp ordered
    have next : low ≤ head.1 := above head List.mem_cons_self
    rw [joinFrom] at member
    split at member
    · refine ih (List.pairwise_cons.mpr ⟨fun other member => ?_, later.of_cons⟩) member
      exact above other (List.mem_cons_of_mem _ member)
    · rcases List.mem_cons.mp member with rfl | member
      · exact Nat.le_refl _
      · exact Nat.le_trans next (ih later member)

theorem ordered_joinFrom (ordered : Ordered ((low, high) :: ranges)) :
    Ordered (joinFrom low high ranges) := by
  induction ranges generalizing low high with
  | nil => exact List.pairwise_singleton _ _
  | cons head rest ih =>
    obtain ⟨above, later⟩ := List.pairwise_cons.mp ordered
    have next : low ≤ head.1 := above head List.mem_cons_self
    rw [joinFrom]
    split
    · refine ih (List.pairwise_cons.mpr ⟨fun other member => ?_, later.of_cons⟩)
      exact above other (List.mem_cons_of_mem _ member)
    · exact List.pairwise_cons.mpr
        ⟨fun other member => Nat.le_trans next (le_of_mem_joinFrom later member), ih later⟩

/-- Joining ranges keeps the values that they cover. -/
theorem inRanges_joinFrom (ordered : Ordered ((low, high) :: ranges)) :
    inRanges value (joinFrom low high ranges) ↔
      ∃ range ∈ (low, high) :: ranges, Covers range value := by
  induction ranges generalizing low high with
  | nil => exact inRanges_iff ordered
  | cons head rest ih =>
    obtain ⟨above, later⟩ := List.pairwise_cons.mp ordered
    have next : low ≤ head.1 := above head List.mem_cons_self
    rw [joinFrom]
    split
    · next touches =>
      have joined : Ordered ((low, max high head.2) :: rest) :=
        List.pairwise_cons.mpr
          ⟨fun other member => above other (List.mem_cons_of_mem _ member), later.of_cons⟩
      rw [ih joined]
      simp only [List.exists_mem_cons_iff, Covers, ← or_assoc]
      refine or_congr_left ?_
      dsimp only at *
      omega
    · rw [inRanges_iff (List.pairwise_cons.mpr ⟨fun other member =>
        Nat.le_trans next (le_of_mem_joinFrom later member), ordered_joinFrom later⟩),
        List.exists_mem_cons_iff, ← inRanges_iff (ordered_joinFrom later), ih later]
      exact (List.exists_mem_cons_iff (Covers · value) _ _).symm

theorem inRanges_joinRanges (ordered : Ordered ranges) :
    inRanges value (joinRanges ranges) ↔ ∃ range ∈ ranges, Covers range value := by
  cases ranges with
  | nil => simp [joinRanges, inRanges]
  | cons head rest => exact inRanges_joinFrom ordered

theorem ordered_joinRanges (ordered : Ordered ranges) : Ordered (joinRanges ranges) := by
  cases ranges with
  | nil => exact ordered
  | cons head rest => exact ordered_joinFrom ordered

end Ranges

section Sets

variable {ranges : List (Nat × Nat)} {value : Nat} {left right set : CharSet} {char other : Char}

theorem containsValue_ofRanges :
    (ofRanges ranges).containsValue value ↔ ∃ range ∈ ranges, Covers range value := by
  rw [containsValue, ofRanges, inRanges_joinRanges ordered_foldr_insertRange]
  simp only [mem_foldr_insertRange]

theorem ordered_ofRanges : Ordered (ofRanges ranges).ranges :=
  ordered_joinRanges ordered_foldr_insertRange

theorem containsValue_iff (ordered : Ordered set.ranges) :
    set.containsValue value ↔ ∃ range ∈ set.ranges, Covers range value := inRanges_iff ordered

theorem containsValue_union (leftOrdered : Ordered left.ranges)
    (rightOrdered : Ordered right.ranges) :
    (left ∪ right).containsValue value ↔
      left.containsValue value ∨ right.containsValue value := by
  change (union left right).containsValue value ↔ _
  unfold union
  split
  · next none =>
    rw [containsValue_iff rightOrdered, List.isEmpty_iff.mp none]
    simp
  · split
    · next none =>
      rw [containsValue_iff leftOrdered, List.isEmpty_iff.mp none]
      simp
    · rw [containsValue_ofRanges, containsValue_iff leftOrdered, containsValue_iff rightOrdered]
      simp only [List.mem_append, or_and_right, exists_or]

theorem ordered_union (leftOrdered : Ordered left.ranges) (rightOrdered : Ordered right.ranges) :
    Ordered (left ∪ right).ranges := by
  change Ordered (union left right).ranges
  unfold union
  split
  · exact leftOrdered
  · split
    · exact rightOrdered
    · exact ordered_ofRanges

/-- A set of single values holds exactly these values. -/
theorem containsValue_ofRanges_values {values : List Nat} :
    (ofRanges (values.map fun value => (value, value))).containsValue value ↔ value ∈ values := by
  rw [containsValue_ofRanges]
  simp only [List.mem_map, exists_exists_and_eq_and, Covers]
  constructor
  · rintro ⟨other, member, above, below⟩
    rwa [Nat.le_antisymm below above]
  · exact fun member => ⟨value, member, Nat.le_refl _, Nat.le_refl _⟩

theorem ordered_single : Ordered (single char).ranges := List.pairwise_singleton _ _

/-! ### Case folding -/

theorem foldCase_single :
    (single char).foldCase = single char ∪
      ofRanges ((Unicode.Folding.orbit char.toNat).map fun value => (value, value)) := by
  simp [foldCase, single]

/-- A folded character holds exactly the characters of its class. -/
theorem contains_foldCase_single :
    (single char).foldCase.contains other ↔
      other.toNat ∈ Unicode.Folding.orbit char.toNat := by
  rw [foldCase_single, contains, containsValue_union ordered_single ordered_ofRanges,
    containsValue_ofRanges_values]
  refine or_iff_right_of_imp fun same => ?_
  obtain ⟨range, member, above, below⟩ := (containsValue_iff ordered_single).mp same
  rw [List.mem_singleton.mp member] at above below
  rw [Nat.le_antisymm below above]
  exact Unicode.Folding.mem_orbit_self _

theorem ordered_foldCase_single : Ordered (single char).foldCase.ranges := by
  rw [foldCase_single]
  exact ordered_union ordered_single ordered_ofRanges

end Sets

end RuleLexer.CharSet
