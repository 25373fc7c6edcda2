import RuleLexer.Proofs.Regex.Choices
import RuleLexer.Proofs.Regex.Consumption

/-!
# Expressions of characters

Of an expression that is made of characters alone the least length says all about the empty text: it
is zero exactly where a way through the expression consumes nothing. The simple form of expressions
keeps to characters: joined literals are a literal, the set that a choice becomes has members if the
branches have, and the common beginning that is taken out of a choice is a part of a branch.

## Main results

* `Expr.Plain.mem_ends`: an expression of characters with the least length zero may consume nothing.
* `Expr.plain_sequence`, `Expr.plain_choice`: sequences and choices of such expressions.
-/
namespace RuleLexer

/-! ### Sets with members -/

namespace CharSet

variable {ranges : List (Nat × Nat)} {low high : Nat} {start left right : CharSet}
  {sets : List CharSet}

theorem joinFrom_ne_nil : joinFrom low high ranges ≠ [] := by
  induction ranges generalizing low high with
  | nil => exact List.cons_ne_nil _ _
  | cons head rest ih =>
    rw [joinFrom]
    split
    · exact ih
    · exact List.cons_ne_nil _ _

theorem ofRanges_ne_nil (nonempty : ranges ≠ []) : (ofRanges ranges).ranges ≠ [] := by
  obtain ⟨range, rest, rfl⟩ := List.exists_cons_of_ne_nil nonempty
  have kept : range ∈ (range :: rest).foldr insertRange [] :=
    mem_foldr_insertRange.mpr List.mem_cons_self
  unfold ofRanges
  cases sorted : (range :: rest).foldr insertRange [] with
  | nil =>
    rw [sorted] at kept
    cases kept
  | cons head more => exact joinFrom_ne_nil

theorem union_ne_nil (either : left.ranges ≠ [] ∨ right.ranges ≠ []) :
    (left ∪ right).ranges ≠ [] := by
  change (union left right).ranges ≠ []
  unfold union
  split
  next none => exact either.resolve_right fun some => some (List.isEmpty_iff.mp none)
  next =>
    split
    next none => exact either.resolve_left fun some => some (List.isEmpty_iff.mp none)
    next =>
      apply ofRanges_ne_nil
      intro both
      obtain ⟨noLeft, noRight⟩ := List.append_eq_nil_iff.mp both
      rcases either with some | some
      · exact some noLeft
      · exact some noRight

theorem foldl_union_ne_nil (either : start.ranges ≠ [] ∨ ∃ set ∈ sets, set.ranges ≠ []) :
    (sets.foldl (· ∪ ·) start).ranges ≠ [] := by
  induction sets generalizing start with
  | nil => simpa using either
  | cons set sets ih =>
    apply ih
    rcases either with here | ⟨other, member, some⟩
    · exact .inl (union_ne_nil (.inl here))
    · rcases List.mem_cons.mp member with rfl | later
      · exact .inl (union_ne_nil (.inr some))
      · exact .inr ⟨other, later, some⟩

end CharSet

namespace Regex.Expr

variable {expr : Expr} {exprs parts : List Expr} {chars : CharSet}

/-- Made of literals and of sets with members, one after the other and as alternatives. -/
def Plain : Expr → Prop
  | empty | literal _ => True
  | set chars => chars.ranges ≠ []
  | concat head tail | alternation head tail => head.Plain ∧ tail.Plain
  | look _ | repetition _ _ _ _ | capture _ _ => False

/-! ### The least length -/

theorem Plain.populated (plain : expr.Plain) : expr.Populated := by
  induction expr with
  | empty | literal _ => trivial
  | set chars => exact plain
  | concat head tail ihHead ihTail | alternation head tail ihHead ihTail =>
    exact ⟨ihHead plain.1, ihTail plain.2⟩
  | look | repetition | capture => exact plain.elim

/-- Characters alone make no groups. -/
theorem Plain.captureCount_eq_zero (plain : expr.Plain) : expr.captureCount = 0 := by
  induction expr with
  | empty | literal | set => rfl
  | concat head tail ihHead ihTail | alternation head tail ihHead ihTail =>
    exact Nat.add_eq_zero_iff.mpr ⟨ihHead plain.1, ihTail plain.2⟩
  | look | repetition | capture => exact plain.elim

theorem scalarSize_pos (value : Nat) : 0 < scalarSize value := by
  unfold scalarSize
  repeat (split; decide)
  decide

/-- One of the ways through an expression of characters whose least length is zero ends where it
begins. -/
theorem Plain.mem_ends (plain : expr.Plain) (zero : expr.leastLength = some 0) (spot : Spot) :
    spot ∈ expr.ends spot := by
  induction expr generalizing spot with
  | empty => exact List.mem_singleton_self spot
  | literal chars =>
    have total : (chars.map Char.utf8Size).sum = 0 := Option.some.inj zero
    have none : chars = [] := by
      cases chars with
      | nil => rfl
      | cons char rest =>
        have size := char.utf8Size_pos
        rw [List.map_cons, List.sum_cons] at total
        omega
    subst none
    simp [ends, Spot.past, lastOf, Text.byteLength]
  | set chars =>
    obtain ⟨range, -, size⟩ := Option.map_eq_some_iff.mp zero
    have positive := scalarSize_pos range.1
    omega
  | concat head tail ihHead ihTail =>
    obtain ⟨front, back, hfront, hback, total⟩ := both_eq_some_iff.mp zero
    obtain ⟨rfl, rfl⟩ : front = 0 ∧ back = 0 := by omega
    exact List.mem_flatMap.mpr
      ⟨spot, ihHead plain.1 hfront spot, ihTail plain.2 hback spot⟩
  | alternation head tail ihHead ihTail =>
    obtain ⟨left, right, hleft, hright, least⟩ := both_eq_some_iff.mp zero
    rcases Nat.min_eq_zero_iff.mp least with rfl | rfl
    · exact List.mem_append_left _ (ihHead plain.1 hleft spot)
    · exact List.mem_append_right _ (ihTail plain.2 hright spot)
  | look | repetition | capture => exact plain.elim

/-! ### Sequences -/

theorem plain_of_mem_parts (plain : expr.Plain) : ∀ part ∈ expr.parts, part.Plain :=
  forall_mem_parts (fun _ _ both => both) plain

theorem plain_sequence (plain : ∀ expr ∈ exprs, expr.Plain) : (sequence exprs).Plain := by
  apply sequence_of_forall _ _ _ plain
  · trivial
  · exact fun _ => trivial
  · exact fun _ _ => Iff.rfl

/-! ### Choices -/

theorem plain_ofSet (inhabited : chars.ranges ≠ []) : (ofSet chars).Plain := by
  unfold ofSet
  split
  · split
    · trivial
    · exact inhabited
  · exact inhabited

theorem branches_ne_nil (expr : Expr) : expr.branches ≠ [] := by
  cases expr <;> exact List.cons_ne_nil _ _

theorem plain_of_mem_branches (plain : expr.Plain) : ∀ branch ∈ expr.branches, branch.Plain := by
  induction expr with
  | alternation head tail _ ihTail => exact List.forall_mem_cons.mpr ⟨plain.1, ihTail plain.2⟩
  | empty | literal | set | look | repetition | capture | concat =>
    intro branch member
    rwa [List.mem_singleton.mp member]

theorem flatMap_branches_ne_nil (nonempty : exprs ≠ []) : exprs.flatMap branches ≠ [] := by
  obtain ⟨first, rest, rfl⟩ := List.exists_cons_of_ne_nil nonempty
  rw [List.flatMap_cons]
  exact List.append_ne_nil_of_left_ne_nil (branches_ne_nil first) _

theorem plain_of_mem_flatMap_branches (plain : ∀ expr ∈ exprs, expr.Plain) :
    ∀ branch ∈ exprs.flatMap branches, branch.Plain := by
  intro branch member
  obtain ⟨expr, among, within⟩ := List.mem_flatMap.mp member
  exact plain_of_mem_branches (plain expr among) branch within

/-- A choice of no branches at all would have no member. -/
theorem plain_choiceOf (depth : Nat) (nonempty : exprs ≠ [])
    (plain : ∀ expr ∈ exprs, expr.Plain) : (choiceOf depth exprs).Plain := by
  fun_induction choiceOf depth exprs with
  | case1 => exact absurd rfl nonempty
  | case2 _ branch => exact plain branch List.mem_cons_self
  | case3 _ _ _ _ chars read =>
    obtain ⟨singles, rfl, rfl⟩ := singleChars?_eq_some read
    apply plain_ofSet
    apply CharSet.ofRanges_ne_nil
    simpa using nonempty
  | case4 _ _ _ _ chars read =>
    obtain ⟨sets, rfl, rfl⟩ := unionOfSets?_eq_some read
    obtain ⟨first, rest, rfl⟩ := List.exists_cons_of_ne_nil (mt List.map_eq_nil_iff.mpr nonempty)
    apply plain_ofSet
    apply CharSet.foldl_union_ne_nil
    exact .inr ⟨first, List.mem_cons_self, plain _ List.mem_cons_self⟩
  | case5 exprs _ _ depth part rest known _ _ left ih =>
    have later : ∀ ending ∈ endings (part :: rest).length exprs, ending.Plain := by
      intro ending member
      obtain ⟨expr, among, rfl⟩ := List.mem_map.mp member
      apply plain_sequence
      intro part within
      exact plain_of_mem_parts (plain expr among) part (List.mem_of_mem_drop within)
    apply plain_sequence
    intro piece member
    rcases List.mem_append.mp member with shared | last
    · -- What is taken out stands at the beginning of the first branch.
      obtain ⟨first, more, rfl⟩ := List.exists_cons_of_ne_nil nonempty
      have begins := (commonBeginning_isPrefix (List.mem_cons_self (a := first) (l := more))).trans
        sequenceParts_isPrefix
      rw [known] at begins
      exact plain_of_mem_parts (plain first List.mem_cons_self) piece (begins.subset shared)
    · rw [List.mem_singleton.mp last]
      exact ih (flatMap_branches_ne_nil (mt List.map_eq_nil_iff.mp nonempty))
        (plain_of_mem_flatMap_branches later)
  | case6 => exact ofBranches_of_forall (fun _ _ front back => ⟨front, back⟩) nonempty plain

theorem plain_choice (nonempty : exprs ≠ []) (plain : ∀ expr ∈ exprs, expr.Plain) :
    (choice exprs).Plain :=
  plain_choiceOf _ (flatMap_branches_ne_nil nonempty) (plain_of_mem_flatMap_branches plain)

end Regex.Expr

end RuleLexer
