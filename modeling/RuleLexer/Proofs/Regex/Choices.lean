import RuleLexer.Proofs.Regex.Preference
import RuleLexer.Proofs.Text.Members

/-!
# Choices in a simple form

Expressions are brought into a simple form while they are built: neighbouring literals are joined, a
choice between characters or sets becomes one set, and what all branches begin with is taken out.
None of this changes where the preferred way ends. For a choice this holds of branches that are
sequences of characters and sets. The ends are not the same list then, since a set names an end once
that several branches name, but nothing that comes after the choice can tell the two lists apart. It
would not hold of branches whose common beginning has several ends.

## Main results

* `Program.ends_ofExpr`: the program of an expression without repetitions has its ends.
* `Expr.ends_sequence`: the ends of a sequence.
* `Expr.offers_choice`: a choice is as good as its branches one after the other.
-/
namespace RuleLexer.Regex

open Text

namespace Expr

/-- Where ways through an expression end, the preferred ones first. A repetition is left to its
program. -/
def ends : Expr → Spot → List Spot
  | empty, spot => [spot]
  | literal chars, spot => if chars <+: spot.rest then [spot.past chars] else []
  | set chars, spot =>
    if spot.rest.head?.any chars.contains then [spot.past (spot.rest.take 1)] else []
  | look assertion, spot => if assertion.holds spot.place.around then [spot] else []
  | capture _ body, spot => body.ends spot
  | concat head tail, spot => (head.ends spot).flatMap tail.ends
  | alternation head tail, spot => head.ends spot ++ tail.ends spot
  | repetition least most greedy body, spot =>
    (Program.ofExpr (repetition least most greedy body)).ends spot

/-- An expression without repetitions. -/
def flat : Expr → Bool
  | repetition _ _ _ _ => false
  | capture _ body => body.flat
  | concat head tail | alternation head tail => head.flat && tail.flat
  | _ => true

end Expr

variable {expr : Expr} {exprs more parts : List Expr} {spot : Spot}

theorem Program.unmarked_ofExprFrom (flat : expr.flat) (continued : Bool) (label : Nat) :
    (ofExprFrom false continued expr label).1.unmarked := by
  induction expr generalizing continued label with
  | empty | literal | set | look => rfl
  | repetition => cases flat
  | capture index body ih =>
    exact (Bool.and_eq_true _ _).mpr ⟨rfl, unmarked_andThen (ih flat _ _) rfl⟩
  | concat head tail ihHead ihTail =>
    simp only [Expr.flat, Bool.and_eq_true] at flat
    exact unmarked_andThen (ihHead flat.1 _ _) (ihTail flat.2 _ _)
  | alternation head tail ihHead ihTail =>
    simp only [Expr.flat, Bool.and_eq_true] at flat
    exact (Bool.and_eq_true _ _).mpr ⟨ihHead flat.1 _ _, ihTail flat.2 _ _⟩

theorem Program.ends_ofExprFrom (flat : expr.flat) (continued : Bool) (label : Nat) :
    (ofExprFrom false continued expr label).1.ends spot = expr.ends spot := by
  induction expr generalizing continued label spot with
  | empty => exact ends_done
  | literal => exact ends_literal
  | set => exact ends_set
  | look => exact ends_look
  | repetition => cases flat
  | capture index body ih =>
    rw [ofExprFrom, ends_seq (.inl rfl), ends_openGroup, List.flatMap_singleton,
      ends_andThen (.inr rfl)]
    rw [ih flat, Expr.ends]
    exact (List.flatMap_congr fun _ _ => ends_closeGroup).trans (List.flatMap_singleton' _)
  | concat head tail ihHead ihTail =>
    simp only [Expr.flat, Bool.and_eq_true] at flat
    rw [ofExprFrom, ends_andThen (.inl (unmarked_ofExprFrom flat.1 _ _)), ihHead flat.1, Expr.ends]
    congr 1
    funext spot
    exact ihTail flat.2 _ _
  | alternation head tail ihHead ihTail =>
    simp only [Expr.flat, Bool.and_eq_true] at flat
    rw [ofExprFrom]
    refine ends_alt.trans ?_
    rw [ihHead flat.1, ihTail flat.2, Expr.ends]

/-- The program of an expression without repetitions has the ends of the expression. -/
theorem Program.ends_ofExpr (flat : expr.flat) : (ofExpr expr).ends spot = expr.ends spot :=
  ends_ofExprFrom flat false 0

namespace Expr

/-! ### Sequences -/

/-- The ends of expressions one after the other. -/
def endsInTurn : List Expr → Spot → List Spot
  | [], spot => [spot]
  | expr :: rest, spot => (expr.ends spot).flatMap (endsInTurn rest)

theorem endsInTurn_append :
    endsInTurn (exprs ++ more) spot = (endsInTurn exprs spot).flatMap (endsInTurn more) := by
  induction exprs generalizing spot with
  | nil => exact (List.flatMap_singleton ..).symm
  | cons expr rest ih =>
    rw [List.cons_append, endsInTurn, endsInTurn, List.flatMap_assoc]
    exact List.flatMap_congr fun _ _ => ih

theorem endsInTurn_singleton : endsInTurn [expr] spot = expr.ends spot := List.flatMap_singleton' _

theorem endsInTurn_parts : endsInTurn expr.parts spot = expr.ends spot := by
  induction expr generalizing spot with
  | concat head tail ihHead ihTail =>
    rw [parts, endsInTurn, ends]
    exact List.flatMap_congr fun _ _ => ihTail
  | empty => rfl
  | literal | set | look | repetition | capture | alternation => exact endsInTurn_singleton

theorem endsInTurn_flatMap_parts :
    endsInTurn (exprs.flatMap Expr.parts) spot = endsInTurn exprs spot := by
  induction exprs generalizing spot with
  | nil => rfl
  | cons expr rest ih =>
    rw [List.flatMap_cons, endsInTurn_append, endsInTurn_parts, endsInTurn]
    exact List.flatMap_congr fun _ _ => ih

theorem ends_ofParts : (ofParts parts).ends spot = endsInTurn parts spot := by
  induction parts generalizing spot with
  | nil => rfl
  | cons part rest ih =>
    cases rest with
    | nil => exact endsInTurn_singleton.symm
    | cons next rest =>
      exact List.flatMap_congr fun _ _ => ih

theorem ends_literal_append {left right : List Char} :
    (literal (left ++ right)).ends spot =
      ((literal left).ends spot).flatMap (literal right).ends := by
  simp only [ends]
  by_cases front : left <+: spot.rest
  · obtain ⟨rest, known⟩ := front
    simp [← known, Spot.past, lastOf_append, byteLength_append, List.prefix_append_right_inj,
      Nat.add_assoc]
  · rw [if_neg front, if_neg fun whole => front ((List.prefix_append _ _).trans whole)]
    rfl

theorem endsInTurn_joinLiterals : endsInTurn (joinLiterals parts) spot = endsInTurn parts spot := by
  induction parts generalizing spot with
  | nil => rfl
  | cons part rest ih =>
    have later : endsInTurn (part :: joinLiterals rest) spot = endsInTurn (part :: rest) spot :=
      List.flatMap_congr fun _ _ => ih
    refine Eq.trans ?_ later
    conv_lhs => unfold joinLiterals
    split
    · next left right more joined =>
      rw [joined, endsInTurn, ends_literal_append, List.flatMap_assoc]
      rfl
    · rfl

/-- A sequence has the ends of its parts one after the other. -/
theorem ends_sequence : (sequence exprs).ends spot = endsInTurn exprs spot := by
  rw [sequence, ends_ofParts, endsInTurn_joinLiterals, endsInTurn_flatMap_parts]

/-! ### Sequences of characters and sets -/

/-- A literal, or a set that has members. -/
def Simple : Expr → Prop
  | literal _ => True
  | set chars => CharSet.Ordered chars.ranges ∧ ∃ char, chars.contains char
  | _ => False

/-- A sequence of literals and sets. -/
def Straight (expr : Expr) : Prop := ∀ part ∈ expr.parts, part.Simple

theorem Simple.parts_eq (simple : expr.Simple) : expr.parts = [expr] := by
  cases expr <;> first | rfl | cases simple

theorem Simple.straight (simple : expr.Simple) : expr.Straight := by
  intro part member
  rw [simple.parts_eq, List.mem_singleton] at member
  rwa [member]

theorem Straight.branches_eq (straight : expr.Straight) : expr.branches = [expr] := by
  cases expr with
  | alternation head tail => exact (straight _ (List.mem_singleton_self _)).elim
  | _ => rfl

theorem Straight.flat (straight : expr.Straight) : expr.flat := by
  induction expr with
  | concat head tail ihHead ihTail =>
    obtain ⟨front, back⟩ := List.forall_mem_cons.mp straight
    exact (Bool.and_eq_true _ _).mpr ⟨ihHead front.straight, ihTail back⟩
  | empty | literal | set | look => rfl
  | repetition | capture | alternation => exact (straight _ (List.mem_singleton_self _)).elim

theorem parts_ofParts (simple : ∀ part ∈ parts, part.Simple) : (ofParts parts).parts = parts := by
  induction parts with
  | nil => rfl
  | cons part rest ih =>
    obtain ⟨front, back⟩ := List.forall_mem_cons.mp simple
    cases rest with
    | nil => exact front.parts_eq
    | cons next rest => exact congrArg (part :: ·) (ih back)

/-- What holds of a sequence holds of its parts, if it always holds of both sides. -/
theorem forall_mem_parts {property : Expr → Prop}
    (sides : ∀ head tail, property (concat head tail) → property head ∧ property tail)
    (whole : property expr) : ∀ part ∈ expr.parts, property part := by
  induction expr with
  | concat head tail _ ihTail =>
    obtain ⟨front, back⟩ := sides head tail whole
    exact List.forall_mem_cons.mpr ⟨front, ihTail back⟩
  | empty => exact fun _ member => nomatch member
  | literal | set | look | repetition | capture | alternation =>
    intro part member
    rwa [List.mem_singleton.mp member]

/-- What holds of the parts holds of their sequence, if it goes over from both sides. -/
theorem ofParts_of_forall {property : Expr → Prop} (none : property empty)
    (both : ∀ head tail, property head → property tail → property (concat head tail))
    (every : ∀ part ∈ parts, property part) : property (ofParts parts) := by
  induction parts with
  | nil => exact none
  | cons part rest ih =>
    obtain ⟨front, back⟩ := List.forall_mem_cons.mp every
    cases rest with
    | nil => exact front
    | cons next rest => exact both _ _ front (ih back)

/-- What holds of the branches holds of their choice, if it goes over from both sides. -/
theorem ofBranches_of_forall {property : Expr → Prop}
    (both : ∀ head tail, property head → property tail → property (alternation head tail))
    (nonempty : exprs ≠ []) (every : ∀ expr ∈ exprs, property expr) :
    property (ofBranches exprs) := by
  induction exprs with
  | nil => exact absurd rfl nonempty
  | cons expr rest ih =>
    obtain ⟨front, back⟩ := List.forall_mem_cons.mp every
    cases rest with
    | nil => exact front
    | cons next rest => exact both _ _ front (ih (List.cons_ne_nil _ _) back)

/-- Joining literals keeps what holds of the parts if it holds of every literal. -/
theorem forall_mem_joinLiterals {property : Expr → Prop}
    (literals : ∀ chars, property (literal chars)) (every : ∀ part ∈ parts, property part) :
    ∀ part ∈ joinLiterals parts, property part := by
  induction parts with
  | nil => exact every
  | cons part rest ih =>
    obtain ⟨front, back⟩ := List.forall_mem_cons.mp every
    have later := ih back
    unfold joinLiterals
    split
    · next left right more joined =>
      rw [joined] at later
      exact List.forall_mem_cons.mpr ⟨literals _, (List.forall_mem_cons.mp later).2⟩
    · exact List.forall_mem_cons.mpr ⟨front, later⟩

theorem straight_sequence (straight : ∀ expr ∈ exprs, expr.Straight) :
    (sequence exprs).Straight := by
  have simple : ∀ part ∈ joinLiterals (exprs.flatMap Expr.parts), part.Simple :=
    forall_mem_joinLiterals (fun _ => trivial) fun part member =>
      have ⟨expr, among, within⟩ := List.mem_flatMap.mp member
      straight expr among part within
  intro part member
  rw [sequence, parts_ofParts simple] at member
  exact simple part member

/-- What holds of expressions holds of their sequence, if it holds of literals and goes from a
sequence to its sides and back. -/
theorem sequence_of_forall {property : Expr → Prop} (none : property empty)
    (literals : ∀ chars, property (literal chars))
    (sides : ∀ head tail, property (concat head tail) ↔ property head ∧ property tail)
    (every : ∀ expr ∈ exprs, property expr) : property (sequence exprs) := by
  apply ofParts_of_forall none
  · exact fun head tail front back => (sides head tail).mpr ⟨front, back⟩
  · apply forall_mem_joinLiterals literals
    intro part member
    obtain ⟨expr, among, within⟩ := List.mem_flatMap.mp member
    exact forall_mem_parts (fun head tail => (sides head tail).mp) (every expr among) part within

theorem flat_concat_iff (head tail : Expr) : (concat head tail).flat ↔ head.flat ∧ tail.flat := by
  simp [Expr.flat]

theorem flat_of_mem_parts (flat : expr.flat) : ∀ part ∈ expr.parts, part.flat :=
  forall_mem_parts (fun head tail => (flat_concat_iff head tail).mp) flat

theorem flat_sequence (flat : ∀ expr ∈ exprs, expr.flat) : (sequence exprs).flat := by
  apply sequence_of_forall _ _ flat_concat_iff flat
  · rfl
  · exact fun _ => rfl

/-- Literals and sets one after the other end at one place at most. -/
theorem endsInTurn_of_simple (simple : ∀ part ∈ parts, part.Simple) (spot : Spot) :
    ∃ last : Option Spot, endsInTurn parts spot = last.toList := by
  induction parts generalizing spot with
  | nil => exact ⟨some spot, rfl⟩
  | cons part rest ih =>
    obtain ⟨front, back⟩ := List.forall_mem_cons.mp simple
    have one : ∃ next : Option Spot, part.ends spot = next.toList := by
      cases part with
      | literal chars =>
        rw [ends]
        split
        · exact ⟨some _, rfl⟩
        · exact ⟨none, rfl⟩
      | set chars =>
        rw [ends]
        split
        · exact ⟨some _, rfl⟩
        · exact ⟨none, rfl⟩
      | _ => exact front.elim
    obtain ⟨next, known⟩ := one
    rw [endsInTurn, known]
    cases next with
    | none => exact ⟨none, rfl⟩
    | some next =>
      obtain ⟨last, known⟩ := ih back next
      exact ⟨last, by rw [Option.toList_some, List.flatMap_singleton, known]⟩

/-! ### Choices -/

/-- The ends of the first expression, then those of the second one, and so on. -/
def anyOf (exprs : List Expr) (spot : Spot) : List Spot := exprs.flatMap fun expr => expr.ends spot

/-- Nothing that comes after the ends can tell the two lists apart. -/
def Alike (left right : List Spot) : Prop :=
  ∀ onwards : Spot → List Spot, (left.flatMap onwards).head? = (right.flatMap onwards).head?

theorem Alike.refl (spots : List Spot) : Alike spots spots := fun _ => rfl

theorem Alike.flatMap_left {each other : Spot → List Spot}
    (alike : ∀ spot, Alike (each spot) (other spot)) (spots : List Spot) :
    Alike (spots.flatMap each) (spots.flatMap other) := by
  intro further
  rw [List.flatMap_assoc, List.flatMap_assoc, List.head?_flatMap, List.head?_flatMap]
  congr 1
  funext spot
  exact alike spot further

/-- Branches that all end at one place, if at all, are as good as that place, if one of them
ends. -/
theorem alike_ite {α : Type} {values : List α} {holds : α → Bool} {last : Spot} :
    Alike (if values.any holds then [last] else [])
      (values.flatMap fun value => if holds value then [last] else []) := by
  intro onwards
  rw [List.flatMap_assoc]
  induction values with
  | nil => rfl
  | cons value rest ih =>
    rw [List.flatMap_cons, List.head?_append, ← ih, List.any_cons]
    cases holds value with
    | false => rfl
    | true =>
      -- A later branch that ends as well adds nothing to the first one.
      cases rest.any holds <;> cases (onwards last).head? <;> simp_all

/-- A choice without branches has no end. -/
theorem ends_never : never.ends spot = [] := by
  obtain ⟨previous, offset, _ | ⟨char, rest⟩⟩ := spot <;> rfl

theorem ends_ofBranches : (ofBranches exprs).ends spot = anyOf exprs spot := by
  induction exprs with
  | nil => exact ends_never
  | cons expr rest ih =>
    cases rest with
    | nil => exact (List.append_nil _).symm
    | cons next rest => exact congrArg (expr.ends spot ++ ·) ih

theorem flat_ofBranches (flat : ∀ expr ∈ exprs, expr.flat) : (ofBranches exprs).flat := by
  by_cases none : exprs = []
  · rw [none]
    rfl
  · apply ofBranches_of_forall _ none flat
    exact fun head tail front back => (Bool.and_eq_true _ _).mpr ⟨front, back⟩

section Sets

variable {chars : CharSet}

theorem flat_ofSet : (ofSet chars).flat := by
  unfold ofSet
  split
  · split <;> rfl
  · rfl

theorem straight_ofSet (ordered : CharSet.Ordered chars.ranges)
    (inhabited : ∃ char, chars.contains char) : (ofSet chars).Straight := by
  have simple : (set chars).Simple := ⟨ordered, inhabited⟩
  unfold ofSet
  split
  · split
    · exact Simple.straight trivial
    · exact simple.straight
  · exact simple.straight

/-- A set with one member is the literal of that member. -/
theorem ends_ofSet (inhabited : ∃ char, chars.contains char) :
    (ofSet chars).ends spot = (set chars).ends spot := by
  unfold ofSet
  split
  · next low high ranges =>
    split
    · next same =>
      subst same
      have only (char : Char) : chars.contains char ↔ char.toNat = low := by
        rw [CharSet.contains, CharSet.containsValue, ranges]
        simp only [CharSet.inRanges]
        split <;> simp <;> omega
      obtain ⟨member, contained⟩ := inhabited
      have value : Char.ofNat low = member := by
        rw [← (only member).mp contained, Char.ofNat_toNat]
      obtain ⟨previous, offset, _ | ⟨char, rest⟩⟩ := spot
      · rfl
      · by_cases same : char = member
        · subst same
          simp [ends, value, contained, List.cons_prefix_cons]
        · have other : ¬chars.contains char := fun contains => same <| Char.toNat_inj.mp
            (((only char).mp contains).trans ((only member).mp contained).symm)
          simp [ends, value, other, List.cons_prefix_cons, Ne.symm same]
    · rfl
  · rfl

theorem exists_map_of_mapM {α β : Type} {read : Expr → Option β} {make : α → Expr} {value : α → β}
    (each : ∀ expr result, read expr = some result → ∃ key, expr = make key ∧ result = value key)
    {results : List β} (whole : exprs.mapM read = some results) :
    ∃ keys : List α, exprs = keys.map make ∧ results = keys.map value := by
  induction exprs generalizing results with
  | nil =>
    simp only [List.mapM_nil, Option.pure_def, Option.some.injEq] at whole
    exact ⟨[], rfl, whole.symm⟩
  | cons expr rest ih =>
    simp only [List.mapM_cons, Option.bind_eq_bind, Option.bind_eq_some_iff, Option.pure_def,
      Option.some.injEq] at whole
    obtain ⟨result, head, results, tail, rfl⟩ := whole
    obtain ⟨key, rfl, rfl⟩ := each _ _ head
    obtain ⟨keys, rfl, rfl⟩ := ih tail
    exact ⟨key :: keys, rfl, rfl⟩

/-- Branches that are single characters. -/
theorem singleChars?_eq_some (read : singleChars? exprs = some chars) : ∃ singles : List Char,
    exprs = singles.map (fun char => literal [char]) ∧
      chars = .ofRanges (singles.map fun char => (char.toNat, char.toNat)) := by
  simp only [singleChars?, Option.bind_eq_bind, Option.bind_eq_some_iff] at read
  obtain ⟨values, whole, made⟩ := read
  obtain ⟨singles, rfl, rfl⟩ := exists_map_of_mapM (fun expr result known => by
    split at known
    · next char =>
      exact ⟨char, rfl, (Option.some.inj known).symm⟩
    · cases known) whole
  exact ⟨singles, rfl, (Option.some.inj made).symm⟩

/-- Branches that are sets. -/
theorem unionOfSets?_eq_some (read : unionOfSets? exprs = some chars) : ∃ sets : List CharSet,
    exprs = sets.map set ∧ chars = sets.foldl (· ∪ ·) .empty := by
  simp only [unionOfSets?, Option.bind_eq_bind, Option.bind_eq_some_iff] at read
  obtain ⟨values, whole, made⟩ := read
  have known : ∃ sets : List CharSet, exprs = sets.map set ∧ values = sets.map id :=
    exists_map_of_mapM (fun expr result known => by
      split at known
      · next chars =>
        exact ⟨chars, rfl, (Option.some.inj known).symm⟩
      · cases known) whole
  obtain ⟨sets, rfl, rfl⟩ := known
  exact ⟨sets, rfl, by rw [← Option.some.inj made, List.map_id]⟩

theorem contains_foldl_union {sets : List CharSet} {start : CharSet} {char : Char}
    (first : CharSet.Ordered start.ranges) (ordered : ∀ set ∈ sets, CharSet.Ordered set.ranges) :
    (sets.foldl (· ∪ ·) start).contains char ↔
      start.contains char ∨ ∃ set ∈ sets, set.contains char := by
  induction sets generalizing start with
  | nil => simp
  | cons set sets ih =>
    obtain ⟨front, back⟩ := List.forall_mem_cons.mp ordered
    rw [List.foldl_cons, ih (CharSet.ordered_union first front) back, List.exists_mem_cons_iff,
      ← or_assoc]
    exact or_congr_left (CharSet.containsValue_union first front)

end Sets

/-- A choice between branches that each take one character is the set of these characters. -/
theorem alike_ofSet {α : Type} {keys : List α} {make : α → Expr} {takes : α → Char → Bool}
    {chars : CharSet} (inhabited : ∃ char, chars.contains char)
    (members : ∀ char, chars.contains char ↔ ∃ key ∈ keys, takes key char)
    (each : ∀ key, (make key).ends spot =
      if spot.rest.head?.any (takes key) then [spot.past (spot.rest.take 1)] else []) :
    Alike ((ofSet chars).ends spot) (anyOf (keys.map make) spot) := by
  rw [ends_ofSet inhabited, anyOf, List.flatMap_map, ends]
  rw [List.flatMap_congr fun key _ => each key]
  have any : spot.rest.head?.any chars.contains =
      keys.any fun key => spot.rest.head?.any (takes key) := by
    cases spot.rest.head? with
    | none => simp
    | some char =>
      rw [Option.any_some, Bool.eq_iff_iff, List.any_eq_true]
      exact members char
  rw [any]
  exact alike_ite

/-- A choice between single characters is the set of them. -/
theorem alike_singleChars {chars : CharSet} (nonempty : exprs ≠ [])
    (read : singleChars? exprs = some chars) (spot : Spot) :
    Alike ((ofSet chars).ends spot) (anyOf exprs spot) := by
  obtain ⟨singles, rfl, rfl⟩ := singleChars?_eq_some read
  have members (char : Char) : (CharSet.ofRanges (singles.map fun char =>
      (char.toNat, char.toNat))).contains char ↔ ∃ single ∈ singles, single == char := by
    have values : (CharSet.ofRanges ((singles.map Char.toNat).map fun value =>
        (value, value))).contains char ↔ char.toNat ∈ singles.map Char.toNat :=
      CharSet.containsValue_ofRanges_values
    rw [List.map_map] at values
    refine values.trans ?_
    simp [Char.toNat_inj]
  obtain ⟨single, rest, rfl⟩ := List.exists_cons_of_ne_nil (mt List.map_eq_nil_iff.mpr nonempty)
  refine alike_ofSet ⟨single, (members single).mpr ⟨single, List.mem_cons_self, by simp⟩⟩ members
    fun key => ?_
  obtain ⟨previous, offset, _ | ⟨char, rest⟩⟩ := spot
  · rfl
  · by_cases same : key = char <;> simp [ends, List.cons_prefix_cons, same]

/-- A choice between sets is their union. -/
theorem alike_unionOfSets {chars : CharSet} (nonempty : exprs ≠ [])
    (straight : ∀ expr ∈ exprs, expr.Straight) (read : unionOfSets? exprs = some chars)
    (spot : Spot) : Alike ((ofSet chars).ends spot) (anyOf exprs spot) := by
  obtain ⟨sets, rfl, rfl⟩ := unionOfSets?_eq_some read
  have simple : ∀ chars ∈ sets, (set chars).Simple := fun chars among =>
    straight _ (List.mem_map_of_mem among) _ (List.mem_singleton_self _)
  have members (char : Char) : (sets.foldl (· ∪ ·) .empty).contains char ↔
      ∃ set ∈ sets, set.contains char := by
    refine (contains_foldl_union List.Pairwise.nil fun set among => (simple set among).1).trans ?_
    exact or_iff_right Bool.false_ne_true
  obtain ⟨first, rest, rfl⟩ := List.exists_cons_of_ne_nil (mt List.map_eq_nil_iff.mpr nonempty)
  obtain ⟨char, contained⟩ := (simple first List.mem_cons_self).2
  exact alike_ofSet ⟨char, (members char).mpr ⟨first, List.mem_cons_self, contained⟩⟩ members
    fun _ => rfl

/-! ### Common beginnings -/

theorem commonStart_isPrefix (left right : List Expr) :
    commonStart left right <+: left ∧ commonStart left right <+: right := by
  induction left generalizing right with
  | nil => simp [commonStart]
  | cons head lefts ih =>
    cases right with
    | nil => simp [commonStart]
    | cons other rights =>
      rw [commonStart]
      split
      · next same =>
        subst same
        simpa [List.cons_prefix_cons] using ih rights
      · exact ⟨List.nil_prefix, List.nil_prefix⟩

theorem sequenceParts_isPrefix : commonBeginning.sequenceParts expr <+: expr.parts := by
  cases expr <;> first | exact List.prefix_rfl | exact List.nil_prefix

/-- Every branch begins with the common beginning. -/
theorem commonBeginning_isPrefix (member : expr ∈ exprs) :
    commonBeginning exprs <+: commonBeginning.sequenceParts expr := by
  have shared (rest : List Expr) (start : List Expr) :
      rest.foldl (fun shared expr => commonStart shared (commonBeginning.sequenceParts expr))
          start <+: start ∧
        ∀ expr ∈ rest, rest.foldl (fun shared expr =>
          commonStart shared (commonBeginning.sequenceParts expr)) start <+:
            commonBeginning.sequenceParts expr := by
    induction rest generalizing start with
    | nil => exact ⟨List.prefix_rfl, fun _ member => nomatch member⟩
    | cons expr rest ih =>
      obtain ⟨left, right⟩ := commonStart_isPrefix start (commonBeginning.sequenceParts expr)
      obtain ⟨front, back⟩ := ih (commonStart start (commonBeginning.sequenceParts expr))
      exact ⟨front.trans left, List.forall_mem_cons.mpr ⟨front.trans right, back⟩⟩
  cases exprs with
  | nil => cases member
  | cons first rest =>
    obtain ⟨front, back⟩ := shared rest (commonBeginning.sequenceParts first)
    rcases List.mem_cons.mp member with rfl | member
    · exact front
    · exact back expr member

/-- The branches without their first parts. -/
def endings (count : Nat) (exprs : List Expr) : List Expr :=
  exprs.map fun expr => sequence (expr.parts.drop count)

theorem straight_endings (straight : ∀ expr ∈ exprs, expr.Straight) (count : Nat) :
    ∀ expr ∈ endings count exprs, expr.Straight := by
  intro ending member
  obtain ⟨expr, among, rfl⟩ := List.mem_map.mp member
  exact straight_sequence fun part within =>
    (straight expr among part (List.mem_of_mem_drop within)).straight

theorem flatMap_branches (straight : ∀ expr ∈ exprs, expr.Straight) :
    exprs.flatMap branches = exprs := by
  rw [List.flatMap_congr fun expr among => (straight expr among).branches_eq,
    List.flatMap_singleton']

/-- What all branches begin with can be taken out, since it ends at one place at most. -/
theorem anyOf_of_prefix {shared : List Expr} (straight : ∀ expr ∈ exprs, expr.Straight)
    (nonempty : exprs ≠ []) (starts : ∀ expr ∈ exprs, shared <+: expr.parts) :
    anyOf exprs spot =
      (endsInTurn shared spot).flatMap (anyOf (endings shared.length exprs)) := by
  obtain ⟨first, rest, rfl⟩ := List.exists_cons_of_ne_nil nonempty
  have simple : ∀ part ∈ shared, part.Simple := fun part within =>
    straight first List.mem_cons_self part ((starts first List.mem_cons_self).subset within)
  obtain ⟨last, known⟩ := endsInTurn_of_simple simple spot
  have each : ∀ expr ∈ first :: rest, expr.ends spot =
      last.toList.flatMap (endsInTurn (expr.parts.drop shared.length)) := by
    intro expr among
    obtain ⟨more, whole⟩ := starts expr among
    rw [← endsInTurn_parts, ← whole, endsInTurn_append, known, List.drop_left]
  rw [anyOf, List.flatMap_congr each, known]
  cases last with
  | none => simp
  | some last => simp [anyOf, endings, List.flatMap_map, ends_sequence]

/-- An expression stands for a choice between branches. -/
def Offers (expr : Expr) (exprs : List Expr) : Prop :=
  expr.flat ∧ ∀ spot, Alike (expr.ends spot) (anyOf exprs spot)

theorem offers_ofBranches (straight : ∀ expr ∈ exprs, expr.Straight) :
    (ofBranches exprs).Offers exprs :=
  ⟨flat_ofBranches fun expr among => (straight expr among).flat, fun spot => by
    rw [ends_ofBranches]
    exact .refl _⟩

/-- What all branches begin with comes before a choice between the rest of them. -/
theorem offers_sequence {shared : List Expr} {rest : Expr} (nonempty : exprs ≠ [])
    (straight : ∀ expr ∈ exprs, expr.Straight) (starts : ∀ expr ∈ exprs, shared <+: expr.parts)
    (offers : rest.Offers (endings shared.length exprs)) :
    (sequence (shared ++ [rest])).Offers exprs := by
  constructor
  · obtain ⟨first, more, rfl⟩ := List.exists_cons_of_ne_nil nonempty
    refine flat_sequence fun part member => ?_
    rcases List.mem_append.mp member with within | last
    · have among := (starts first List.mem_cons_self).subset within
      exact flat_of_mem_parts (straight first List.mem_cons_self).flat part among
    · rw [List.mem_singleton.mp last]
      exact offers.1
  · intro spot
    rw [ends_sequence, endsInTurn_append, anyOf_of_prefix straight nonempty starts]
    refine .flatMap_left (fun spot => ?_) _
    rw [endsInTurn_singleton]
    exact offers.2 spot

/-- A choice between sequences of characters and sets is as good as the sequences one after the
other. -/
theorem offers_choiceOf (straight : ∀ expr ∈ exprs, expr.Straight) (depth : Nat) :
    (choiceOf depth exprs).Offers exprs := by
  fun_induction choiceOf depth exprs with
  | case1 => exact offers_ofBranches straight
  | case2 => exact offers_ofBranches straight
  | case3 _ _ nonempty _ chars read => exact ⟨flat_ofSet, alike_singleChars nonempty read⟩
  | case4 _ _ nonempty _ chars read =>
    exact ⟨flat_ofSet, alike_unionOfSets nonempty straight read⟩
  | case5 exprs nonempty _ depth part rest known _ _ left ih =>
    have later := straight_endings straight (part :: rest).length
    have same : left.flatMap branches = endings (part :: rest).length exprs :=
      flatMap_branches later
    rw [same] at ih ⊢
    refine offers_sequence nonempty straight (fun expr among => ?_) (ih later)
    rw [← known]
    exact (commonBeginning_isPrefix among).trans sequenceParts_isPrefix
  | case6 => exact offers_ofBranches straight

/-- A choice between sequences of characters and sets stands for the sequences in their order. -/
theorem offers_choice (straight : ∀ expr ∈ exprs, expr.Straight) : (choice exprs).Offers exprs := by
  rw [choice, flatMap_branches straight]
  exact offers_choiceOf straight _

end Expr

end RuleLexer.Regex
