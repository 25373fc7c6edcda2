import RuleLexer.Proofs.Regex.Search

/-!
# Patterns that consume

Whether a pattern can match the empty text is judged by the least length of its expression, and not
by running it. The judgement is right as far as it goes: what has a positive least length consumes
at every match. An expression has no least length at all as soon as a set without members stands
anywhere in it, even where the match can go another way.

## Main results

* `Expr.leastLength_isSome_iff`: an expression has a least length exactly when each of its sets has
  a member.
* `Pattern.stop_pos_of_leastLength`: a pattern with a positive least length matches no empty text.
-/
namespace RuleLexer

namespace Regex

/-! ### Least lengths -/

/-- Two values give a result only together. -/
theorem both_eq_some_iff {combine : Nat → Nat → Nat} {first second : Option Nat} {result : Nat} :
    (do return combine (← first) (← second)) = some result ↔
      ∃ left right, first = some left ∧ second = some right ∧ combine left right = result := by
  cases first <;> cases second <;> simp

theorem both_isSome_iff {combine : Nat → Nat → Nat} {first second : Option Nat} :
    (do return combine (← first) (← second) : Option Nat).isSome ↔
      first.isSome ∧ second.isSome := by
  cases first <;> cases second <;> simp

/-- Every set in an expression has a member. -/
def Expr.Populated : Expr → Prop
  | .empty | .literal _ | .look _ => True
  | .set chars => chars.ranges ≠ []
  | .repetition _ _ _ body | .capture _ body => body.Populated
  | .concat head tail | .alternation head tail => head.Populated ∧ tail.Populated

theorem Expr.leastLength_isSome_iff (expr : Expr) :
    expr.leastLength.isSome ↔ expr.Populated := by
  induction expr with
  | empty | literal _ | look _ => exact iff_of_true rfl trivial
  | set chars =>
    change (chars.ranges.head?.map _).isSome ↔ chars.ranges ≠ []
    rw [Option.isSome_map, List.isSome_head?]
  | repetition fewest most greedy body ih =>
    change (body.leastLength.map _).isSome ↔ body.Populated
    rwa [Option.isSome_map]
  | capture index body ih => exact ih
  | concat head tail ihHead ihTail | alternation head tail ihHead ihTail =>
    change _ ↔ head.Populated ∧ tail.Populated
    rw [← ihHead, ← ihTail]
    exact both_isSome_iff

/-! ### Programs that consume -/

namespace Program

/-- Wherever the program is, it is not through before it has consumed a character. -/
def Consuming (program : Program) : Prop :=
  ∀ (place : Place) (passed : List Nat) (groups : Groups),
    ∀ outcome ∈ program.outcomes place passed groups, ∃ rest later, outcome = .step rest later

theorem consuming_iff {program : Program} : program.Consuming ↔
    ∀ place passed groups between later,
      ¬program.Yields place passed groups (.finish between later) := by
  constructor
  · intro consuming place passed groups between later yields
    obtain ⟨_, _, same⟩ := consuming place passed groups _ yields.mem_outcomes
    cases same
  · intro idle place passed groups outcome member
    cases outcome with
    | step rest later => exact ⟨rest, later, rfl⟩
    | finish between later => exact absurd (mem_outcomes_iff.mp member) (idle _ _ _ _ _)

theorem consuming_literal {chars : List Char} (nonempty : chars ≠ []) :
    (literal chars).Consuming := by
  refine consuming_iff.mpr fun place passed groups between later yields => ?_
  cases yields
  exact nonempty rfl

theorem consuming_set (chars : CharSet) : (set chars).Consuming :=
  consuming_iff.mpr fun _ _ _ _ _ => nofun

theorem consuming_seq {first second : Program}
    (either : first.Consuming ∨ second.Consuming) : (seq first second).Consuming := by
  refine consuming_iff.mpr fun place passed groups between later yields => ?_
  -- A sequence is through where both of its parts are.
  cases yields with
  | through head tail =>
    rcases either with first | second
    · exact consuming_iff.mp first _ _ _ _ _ head
    · exact consuming_iff.mp second _ _ _ _ _ tail

theorem consuming_alt {preferred other : Program} (left : preferred.Consuming)
    (right : other.Consuming) : (alt preferred other).Consuming := by
  refine consuming_iff.mpr fun place passed groups between later yields => ?_
  cases yields with
  | preferred way => exact consuming_iff.mp left _ _ _ _ _ way
  | other way => exact consuming_iff.mp right _ _ _ _ _ way

theorem consuming_mark {body : Program} (consuming : body.Consuming) (label : Nat) :
    (mark label body).Consuming := by
  refine consuming_iff.mpr fun place passed groups between later yields => ?_
  cases yields with
  | mark _ way => exact consuming_iff.mp consuming _ _ _ _ _ way

theorem consuming_andThen {first second : Program}
    (either : first.Consuming ∨ second.Consuming) : (first.andThen second).Consuming := by
  unfold andThen
  split
  · rcases either with first | second
    · exact absurd .done (consuming_iff.mp first ⟨⟨none, none⟩, 0, none⟩ [] .none [] .none)
    · exact second
  · exact consuming_seq either

theorem consuming_marked {body : Program} (consuming : body.Consuming) (marking : Bool)
    (label : Nat) : (marked marking body label).1.Consuming := by
  unfold marked
  split
  · exact consuming_mark consuming label
  · exact consuming

variable {body : Nat → Program × Nat}

/-- Copies of a body that consumes do, if there is one or what follows them consumes. -/
theorem consuming_copies (consuming : ∀ label, (body label).1.Consuming) {count : Nat}
    {tail : Program} (some : 0 < count ∨ tail.Consuming) (label : Nat) :
    (copies body count tail label).1.Consuming := by
  induction count generalizing tail label with
  | zero => simpa [copies] using some
  | succ count ih => exact ih (.inr (consuming_andThen (.inl (consuming label)))) _

theorem consuming_onceOrMore (consuming : ∀ label, (body label).1.Consuming) (greedy : Bool)
    (label : Nat) : (onceOrMore greedy body label).1.Consuming :=
  consuming_andThen (.inl (consuming label))

/-- The program of an expression with a positive least length consumes. -/
theorem consuming_ofExprFrom {expr : Expr} {least : Nat} (known : expr.leastLength = some least)
    (positive : 0 < least) (marking continued : Bool) (label : Nat) :
    (ofExprFrom marking continued expr label).1.Consuming := by
  induction expr generalizing least marking continued label with
  | empty | look _ =>
    cases known
    cases positive
  | literal chars =>
    apply consuming_literal
    rintro rfl
    cases known
    cases positive
  | set chars => exact consuming_set chars
  | capture index body ih =>
    have inner := ih known positive marking false label
    exact consuming_seq (.inr (consuming_andThen (.inl inner)))
  | concat head tail ihHead ihTail =>
    -- One of the two parts has a positive least length of its own.
    obtain ⟨front, back, hfront, hback, rfl⟩ := both_eq_some_iff.mp known
    apply consuming_andThen
    rcases Nat.eq_zero_or_pos front with none | some
    · exact .inr (ihTail hback (by omega) marking false _)
    · exact .inl (ihHead hfront some marking false _)
  | alternation head tail ihHead ihTail =>
    obtain ⟨left, right, hleft, hright, rfl⟩ := both_eq_some_iff.mp known
    apply consuming_marked
    exact consuming_alt (ihHead hleft (by omega) marking false _)
      (ihTail hright (by omega) marking true _)
  | repetition fewest most greedy body ih =>
    obtain ⟨size, hsize, rfl⟩ := Option.map_eq_some_iff.mp known
    have sizePos : 0 < size := Nat.pos_of_mul_pos_right positive
    have fewestPos : 0 < fewest := Nat.pos_of_mul_pos_left positive
    have each (marking : Bool) (label : Nat) :
        (ofExprFrom marking false body label).1.Consuming := ih hsize sizePos marking false label
    have sized : body.leastLength.any (0 < ·) = true := by simpa [hsize] using sizePos
    obtain ⟨fewer, rfl⟩ := Nat.exists_eq_add_of_lt fewestPos
    cases most with
    | some most => exact consuming_copies (each marking) (.inl (by omega)) _
    | none =>
      simp only [ofExprFrom, sized, if_true]
      exact consuming_copies (each marking) (.inr (consuming_onceOrMore (each marking) _ _)) _

theorem consuming_ofExpr {expr : Expr} {least : Nat} (known : expr.leastLength = some least)
    (positive : 0 < least) : (ofExpr expr).Consuming :=
  consuming_ofExprFrom known positive false false 0

end Program

/-! ### Searches -/

/-- A program that consumes finds no way that ends where it begins. -/
theorem Program.Consuming.stop_pos {program : Program} (consuming : program.Consuming)
    {previous : Option Char} {text : List Char} {success : Success}
    (found : program.run previous text = some success) : 0 < success.stop := by
  -- The program itself runs where the search begins, and every later thread behind a character.
  refine run_forall (fun done _ thread => done = [] → thread.program.Consuming)
    (fun found => 0 < found.stop) (fun _ => consuming) ?_ ?_ found
  · intro done char rest thread next later _ _ _ begins
    cases done <;> cases begins
  · intro done rest thread passed later _ serves yields
    cases done with
    | nil => exact absurd yields (consuming_iff.mp (serves rfl) _ _ _ _ _)
    | cons char done => exact Nat.lt_of_lt_of_le char.utf8Size_pos (Nat.le_add_right _ _)

end Regex

namespace Pattern

/-- The text of a pattern that its program is read from, without a look-behind. -/
def body (source : String) : List Char :=
  ((LookbehindSource.split? source.toList).map LookbehindSource.rest).getD source.toList

/-- What is kept of a compiled pattern comes from the expression of its body. -/
theorem compile_eq_ok {options : PatternOptions} {source : String} {pattern : Pattern}
    (compiled : compile options source = .ok pattern) :
    ∃ expr, readExpr options (body source) = .ok expr ∧ pattern.program = .ofExpr expr ∧
      pattern.leastLength = expr.leastLength ∧ pattern.groupCount = expr.captureCount ∧
      pattern.source = source := by
  unfold compile at compiled
  cases split : LookbehindSource.split? source.toList with
  | none =>
    cases read : readExpr options source.toList with
    | error cause => simp [split, read, bind, Except.bind, pure, Except.pure] at compiled
    | ok expr =>
      simp only [split, read, bind, Except.bind, pure, Except.pure, Except.ok.injEq] at compiled
      subst compiled
      exact ⟨expr, by simpa [body, split] using read, rfl, rfl, rfl, rfl⟩
  | some parts =>
    cases look : readLookbehind options parts with
    | error cause => simp [split, look, bind, Except.bind] at compiled
    | ok lookbehind =>
      cases read : readExpr options parts.rest with
      | error cause => simp [split, look, read, bind, Except.bind, pure, Except.pure] at compiled
      | ok expr =>
        simp only [split, look, read, bind, Except.bind, pure, Except.pure,
          Except.ok.injEq] at compiled
        subst compiled
        exact ⟨expr, by simpa [body, split] using read, rfl, rfl, rfl, rfl⟩

/-- A pattern with a positive least length matches no empty text. -/
theorem stop_pos_of_leastLength {options : PatternOptions} {source : String} {pattern : Pattern}
    (compiled : compile options source = .ok pattern) {least : Nat}
    (known : pattern.leastLength = some least) (positive : 0 < least) {before after : List Char}
    {found : Match} (matched : pattern.matchHere? before after = some found) : 0 < found.stop := by
  obtain ⟨expr, -, program, length, -⟩ := compile_eq_ok compiled
  unfold matchHere? at matched
  split at matched
  · obtain ⟨success, run, rfl⟩ := Option.map_eq_some_iff.mp matched
    rw [program] at run
    rw [length] at known
    exact (Regex.Program.consuming_ofExpr known positive).stop_pos run
  · cases matched

end Pattern

end RuleLexer
