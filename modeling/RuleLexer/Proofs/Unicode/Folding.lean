import Mathlib.Data.List.Basic
import RuleLexer.Unicode.Folding

/-!
# Case folding is an equivalence

The table of case folding lists classes of characters, and a class is found by walking the table up
to the first class that holds the character or starts above it. No character is in two classes and
the classes are ordered by their least members, so the walk finds the class of every member, and
characters that differ in case only have the same class.

## Main results

* `mem_orbit_iff`: a character is in the class of another one just if they have the same class.
-/
namespace RuleLexer.Unicode.Folding

variable {value other head : Nat} {values : List Nat} {table : List (List Nat)}

/-! ### Values that come once -/

/-- Marks values one after the other in a mask of bits, as long as none is marked already. -/
def fresh (marked : Nat) : List Nat → Bool
  | [] => true
  | value :: rest => !marked.testBit value && fresh (marked ||| 1 <<< value) rest

theorem nodup_of_fresh {marked : Nat} (free : fresh marked values) :
    values.Nodup ∧ ∀ value ∈ values, marked.testBit value = false := by
  induction values generalizing marked with
  | nil => exact ⟨.nil, fun _ member => nomatch member⟩
  | cons value rest ih =>
    simp only [fresh, Bool.and_eq_true, Bool.not_eq_true'] at free
    obtain ⟨distinct, unmarked⟩ := ih free.2
    simp only [Nat.testBit_or, Bool.or_eq_false_iff] at unmarked
    refine ⟨List.nodup_cons.mpr ⟨fun again => ?_, distinct⟩,
      List.forall_mem_cons.mpr ⟨free.1, fun other later => (unmarked other later).1⟩⟩
    simpa using (unmarked value again).2

/-! ### Walking the table -/

/-- The members of every class are at least its first one, and the first ones increase from `least`
on. -/
def orderedFrom (least : Nat) : List (List Nat) → Bool
  | [] => true
  | [] :: _ => false
  | (head :: more) :: rest =>
    least ≤ head && more.all (head ≤ ·) && orderedFrom (head + 1) rest

theorem le_of_orderedFrom {least : Nat} (ordered : orderedFrom least table)
    (listed : values ∈ table) (member : value ∈ values) : least ≤ value := by
  induction table generalizing least with
  | nil => cases listed
  | cons first rest ih =>
    cases first with
    | nil => cases ordered
    | cons head more =>
      simp only [orderedFrom, Bool.and_eq_true, decide_eq_true_eq, List.all_eq_true] at ordered
      obtain ⟨⟨low, above⟩, later⟩ := ordered
      rcases List.mem_cons.mp listed with rfl | listed
      · rcases List.mem_cons.mp member with rfl | member
        · exact low
        · exact Nat.le_trans low (above value member)
      · exact Nat.le_trans low (Nat.le_of_succ_le (ih later listed))

/-- The walk finds the class of every member. -/
theorem orbitIn_eq_of_mem {least : Nat} (ordered : orderedFrom least table)
    (distinct : table.flatten.Nodup) (listed : values ∈ table) (member : value ∈ values) :
    orbitIn value table = values := by
  induction table generalizing least with
  | nil => cases listed
  | cons first rest ih =>
    cases first with
    | nil => cases ordered
    | cons head more =>
      simp only [orderedFrom, Bool.and_eq_true, decide_eq_true_eq, List.all_eq_true] at ordered
      obtain ⟨⟨-, above⟩, later⟩ := ordered
      obtain ⟨-, apart, alone⟩ := List.nodup_append.mp distinct
      rcases List.mem_cons.mp listed with rfl | listed
      · have low : ¬value < head := by
          rcases List.mem_cons.mp member with rfl | member
          · exact Nat.lt_irrefl _
          · exact Nat.not_lt.mpr (above value member)
        simp [orbitIn, low, member]
      · have low : ¬value < head :=
          Nat.not_lt.mpr (Nat.le_of_succ_le (le_of_orderedFrom later listed member))
        have missing : value ∉ head :: more := fun here =>
          alone value here value (List.mem_flatten.mpr ⟨values, listed, member⟩) rfl
        rw [orbitIn]
        simp only [List.head?_cons, Option.any_some, low, decide_false, Bool.false_eq_true,
          if_false, if_neg missing]
        exact ih later apart listed

/-- What the walk finds is a class of the table, or the value alone. -/
theorem orbitIn_cases (value : Nat) (table : List (List Nat)) :
    orbitIn value table = [value] ∨ orbitIn value table ∈ table := by
  induction table with
  | nil => exact .inl rfl
  | cons first rest ih =>
    rw [orbitIn]
    split
    · exact .inl rfl
    · split
      · exact .inr List.mem_cons_self
      · exact ih.imp_right (List.mem_cons_of_mem _)

/-! ### The table -/

theorem fresh_orbits : fresh 0 orbits.flatten := by decide +kernel

theorem ordered_orbits : orderedFrom 0 orbits := by decide +kernel

theorem mem_orbit_self (value : Nat) : value ∈ orbit value := by
  have found (table : List (List Nat)) : value ∈ orbitIn value table := by
    induction table with
    | nil => exact List.mem_singleton_self _
    | cons first rest ih =>
      rw [orbitIn]
      split
      · exact List.mem_singleton_self _
      · split
        · assumption
        · exact ih
  exact found _

/-- A character is in the class of another one just if they have the same class. -/
theorem mem_orbit_iff : other ∈ orbit value ↔ orbit other = orbit value := by
  constructor
  · intro member
    rcases orbitIn_cases value orbits with alone | listed
    · rw [orbit, alone, List.mem_singleton] at member
      rw [member]
    · exact orbitIn_eq_of_mem ordered_orbits (nodup_of_fresh fresh_orbits).1 listed member
  · intro same
    rw [← same]
    exact mem_orbit_self other

end RuleLexer.Unicode.Folding
