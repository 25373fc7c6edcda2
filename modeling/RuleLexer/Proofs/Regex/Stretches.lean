import RuleLexer.Proofs.Regex.Paths
import RuleLexer.Regex.Backward

/-!
# What expressions match

An expression denotes the stretches of text that it matches. Its assertions see the characters right
before and right after the place they stand at, so a stretch is taken together with its neighbours.
Neither preferences nor groups have a part in this.

A search from the end of a text takes the last character off a stretch and goes on with the
expressions for what comes before it. What it finds is exactly what the expression denotes.

## Main results

* `Expr.matches_snoc_iff`: the expressions for what comes before a last character denote just that.
* `Expr.occurs_iff`: the search from the end finds a stretch if the expression matches one.
* `Expr.matches_sequence`: joining the parts of a sequence keeps what they match.
-/
namespace RuleLexer.Regex

/-- Stretches of text, each given by the character before it, its own ones and the one after it. -/
abbrev Stretches := Option Char → List Char → Option Char → Prop

namespace Stretches

/-- The empty stretch, anywhere. -/
def idle : Stretches := fun _ piece _ => piece = []

/-- A stretch of the first kind and right after it one of the second kind. -/
def andThen (first second : Stretches) : Stretches := fun previous piece next =>
  ∃ near far, piece = near ++ far ∧ first previous near (far.head?.or next) ∧
    second (lastOf previous near) far next

/-- A number of stretches of one kind, one after the other. -/
def rounds (body : Stretches) : Nat → Stretches
  | 0 => idle
  | count + 1 => body.andThen (body.rounds count)

/-- One stretch of each kind, one after the other. -/
def inTurn (kinds : List Stretches) : Stretches := kinds.foldr andThen idle

variable {body first second : Stretches} {previous next : Option Char} {front : List Char}
  {last : Char}

@[simp] theorem idle_andThen : idle.andThen second = second := by
  funext previous piece next
  simp only [andThen, idle, eq_iff_iff]
  constructor
  · rintro ⟨near, far, rfl, rfl, way⟩
    exact way
  · exact fun way => ⟨[], piece, rfl, rfl, way⟩

@[simp] theorem andThen_idle : first.andThen idle = first := by
  funext previous piece next
  simp only [andThen, idle, eq_iff_iff]
  constructor
  · rintro ⟨near, far, rfl, way, rfl⟩
    simpa using way
  · exact fun way => ⟨piece, [], by simp, by simpa using way, rfl⟩

theorem andThen_assoc (third : Stretches) :
    (first.andThen second).andThen third = first.andThen (second.andThen third) := by
  funext previous piece next
  simp only [andThen, eq_iff_iff]
  constructor
  · rintro ⟨_, far, rfl, ⟨near, middle, rfl, one, two⟩, three⟩
    refine ⟨near, middle ++ far, by simp, ?_, middle, far, rfl, two, ?_⟩
    · simpa [List.head?_append, Option.or_assoc] using one
    · simpa [lastOf_append] using three
  · rintro ⟨near, _, rfl, one, middle, far, rfl, two, three⟩
    refine ⟨near ++ middle, far, by simp, ⟨near, middle, rfl, ?_, two⟩, ?_⟩
    · simpa [List.head?_append, Option.or_assoc] using one
    · simpa [lastOf_append] using three

theorem andThen_nil_iff :
    first.andThen second previous [] next ↔ first previous [] next ∧ second previous [] next := by
  constructor
  · rintro ⟨near, far, cut, one, two⟩
    obtain ⟨rfl, rfl⟩ := List.append_eq_nil_iff.mp cut.symm
    exact ⟨one, two⟩
  · exact fun ⟨one, two⟩ => ⟨[], [], rfl, one, two⟩

/-- The last character belongs to the second stretch, or to the first one if the second is empty. -/
theorem andThen_snoc_iff :
    first.andThen second previous (front ++ [last]) next ↔
      (∃ near far, front = near ++ far ∧ first previous near (far.head?.or (some last)) ∧
        second (lastOf previous near) (far ++ [last]) next) ∨
      first previous (front ++ [last]) next ∧ second (some last) [] next := by
  constructor
  · rintro ⟨near, far, cut, one, two⟩
    rcases far.eq_nil_or_concat with rfl | ⟨far, char, rfl⟩
    · obtain rfl : front ++ [last] = near := by simpa using cut
      exact .inr ⟨one, by simpa [lastOf_append, lastOf] using two⟩
    · obtain ⟨rfl, rfl⟩ : front = near ++ far ∧ last = char := by
        simpa [← List.append_assoc] using cut
      exact .inl ⟨near, far, rfl, by simpa [List.head?_append, Option.or_assoc] using one,
        by simpa using two⟩
  · rintro (⟨near, far, rfl, one, two⟩ | ⟨one, two⟩)
    · exact ⟨near, far ++ [last], by simp, by simpa [List.head?_append, Option.or_assoc] using one,
        two⟩
    · exact ⟨front ++ [last], [], by simp, one, by simpa [lastOf_append, lastOf] using two⟩

theorem rounds_nil_iff (count : Nat) :
    body.rounds count previous [] next ↔ count = 0 ∨ body previous [] next := by
  induction count with
  | zero => simp [rounds, idle]
  | succ count ih =>
    rw [rounds, andThen_nil_iff, ih]
    grind

/-- The last character belongs to some round, and the rounds after that one are empty. -/
theorem rounds_snoc_iff (count : Nat) :
    body.rounds count previous (front ++ [last]) next ↔
      ∃ before < count, (before + 1 = count ∨ body (some last) [] next) ∧
        ∃ near far, front = near ++ far ∧
          body.rounds before previous near (far.head?.or (some last)) ∧
          body (lastOf previous near) (far ++ [last]) next := by
  induction count generalizing previous front with
  | zero => simp [rounds, idle]
  | succ count ih =>
    rw [rounds, andThen_snoc_iff, rounds_nil_iff]
    constructor
    · rintro (⟨near, rest, rfl, one, more⟩ | ⟨one, rest⟩)
      · obtain ⟨before, fewer, empty, middle, far, rfl, early, late⟩ := ih.mp more
        refine ⟨before + 1, by omega, empty.imp_left (by omega), near ++ middle, far, by simp, ?_,
          by simpa [lastOf_append] using late⟩
        exact ⟨near, middle, rfl, by simpa [List.head?_append, Option.or_assoc] using one, early⟩
      · exact ⟨0, by omega, rest.imp_left (by omega), [], front, rfl, rfl, one⟩
    · rintro ⟨before, fewer, empty, near, far, rfl, early, late⟩
      cases before with
      | zero =>
        obtain rfl : near = [] := early
        exact .inr ⟨late, empty.imp_left (by omega)⟩
      | succ before =>
        obtain ⟨near, middle, rfl, one, early⟩ := early
        refine .inl ⟨near, middle ++ far, by simp,
          by simpa [List.head?_append, Option.or_assoc] using one, ih.mpr ?_⟩
        exact ⟨before, by omega, empty.imp_left (by omega), middle, far, rfl, early,
          by simpa [lastOf_append] using late⟩

theorem inTurn_cons (kind : Stretches) (kinds : List Stretches) :
    inTurn (kind :: kinds) = kind.andThen (inTurn kinds) := rfl

theorem inTurn_append (near far : List Stretches) :
    inTurn (near ++ far) = (inTurn near).andThen (inTurn far) := by
  induction near with
  | nil => exact idle_andThen.symm
  | cons kind near ih => rw [List.cons_append, inTurn_cons, inTurn_cons, ih, andThen_assoc]

end Stretches

namespace Expr

open Stretches

/-- The stretches that an expression matches. -/
def Matches : Expr → Stretches
  | empty => idle
  | literal chars => fun _ piece _ => piece = chars
  | set chars => fun _ piece _ => ∃ char, chars.contains char ∧ piece = [char]
  | look assertion => fun previous piece next => piece = [] ∧ assertion.holds ⟨previous, next⟩
  | repetition least most _ body => fun previous piece next =>
    ∃ count, least ≤ count ∧ (∀ bound ∈ most, count ≤ max least bound) ∧
      body.Matches.rounds count previous piece next
  | capture _ body => body.Matches
  | concat head tail => head.Matches.andThen tail.Matches
  | alternation head tail => fun previous piece next =>
    head.Matches previous piece next ∨ tail.Matches previous piece next

/-! ### From the end of a stretch -/

theorem idles_iff (expr : Expr) (previous next : Option Char) :
    expr.idles ⟨previous, next⟩ ↔ expr.Matches previous [] next := by
  induction expr with
  | empty => simp [idles, Matches, idle]
  | literal chars => cases chars <;> simp [idles, Matches]
  | set chars => simp [idles, Matches]
  | look assertion => simp [idles, Matches]
  | repetition least most greedy body ih =>
    simp only [idles, Matches, rounds_nil_iff, Bool.or_eq_true, decide_eq_true_eq, ih]
    constructor
    · exact fun idle => ⟨least, Nat.le_refl _, fun bound _ => Nat.le_max_left .., idle⟩
    · exact fun ⟨count, enough, _, idle⟩ => idle.imp_left (by omega)
  | capture index body ih => exact ih
  | concat head tail first second => simp [idles, Matches, andThen_nil_iff, first, second]
  | alternation head tail first second => simp [idles, Matches, first, second]

/-- The round with the last character has some rounds before it. How many there may be depends on
whether the rounds after it may be empty. -/
theorem exists_rounds_iff {least : Nat} {most : Option Nat} {idle : Bool} {before : Nat}
    (more : ¬(least = 0 ∧ most = some 0)) :
    (∃ count, least ≤ count ∧ (∀ bound ∈ most, count ≤ max least bound) ∧ before < count ∧
        (before + 1 = count ∨ idle)) ↔
      (if idle then 0 else least - 1) ≤ before ∧
        ∀ bound ∈ most.map fun most => max least most - 1,
          before ≤ max (if idle then 0 else least - 1) bound := by
  cases idle <;> cases most with
  | none => ?_
  | some most => ?_
  all_goals simp only [Option.map_none, Option.map_some, Option.mem_def, Option.some.injEq,
    forall_eq', reduceCtorEq, if_true, if_false, Bool.false_eq_true, or_false, or_true, and_true,
    false_imp_iff, implies_true, true_and] at more ⊢
  · exact ⟨fun ⟨count, _, _, _⟩ => by omega, fun _ => ⟨before + 1, by omega⟩⟩
  · exact ⟨fun ⟨count, _⟩ => by omega, fun _ => ⟨before + 1, by omega⟩⟩
  · exact ⟨fun _ => by omega, fun _ => ⟨max least (before + 1), by omega⟩⟩
  · exact ⟨fun ⟨count, _⟩ => by omega, fun _ => ⟨max least (before + 1), by omega⟩⟩

/-- The expressions for what comes before the last character of a stretch match just that. -/
theorem matches_snoc_iff (expr : Expr) (previous next : Option Char) (front : List Char)
    (last : Char) :
    expr.Matches previous (front ++ [last]) next ↔
      ∃ rest ∈ expr.fronts ⟨some last, next⟩ last, rest.Matches previous front (some last) := by
  -- In a sequence and in a repetition the last character may stand before parts that match nothing.
  induction expr generalizing previous front with
  | empty => simp [Matches, fronts, idle]
  | literal chars =>
    rcases chars.eq_nil_or_concat with rfl | ⟨chars, char, rfl⟩
    · simp [Matches, fronts]
    · by_cases same : last = char <;> simp [Matches, fronts, same, eq_comm (a := char)]
  | set chars =>
    have single : (∃ char, chars.contains char ∧ front ++ [last] = [char]) ↔
        chars.contains last ∧ front = [] := by
      constructor
      · rintro ⟨char, member, same⟩
        obtain ⟨rfl, cut⟩ : front = [] ∧ [last] = [char] := List.append_inj' same rfl
        obtain rfl : last = char := List.singleton_inj.mp cut
        exact ⟨member, rfl⟩
      · rintro ⟨member, rfl⟩
        exact ⟨last, member, rfl⟩
    cases member : chars.contains last <;> simp [Matches, fronts, idle, single, member]
  | look assertion => simp [Matches, fronts]
  | repetition least most greedy body ih =>
    simp only [Matches, fronts]
    split
    · next none =>
      obtain ⟨rfl, rfl⟩ := none
      simp [rounds_snoc_iff]
    · next more =>
      simp only [rounds_snoc_iff, List.mem_map, exists_exists_and_eq_and, Matches, andThen,
        ← idles_iff]
      constructor
      · rintro ⟨count, enough, few, before, fewer, empty, near, far, rfl, early, late⟩
        obtain ⟨rest, member, late⟩ := (ih _ _).mp late
        obtain ⟨enough, few⟩ := (exists_rounds_iff more).mp ⟨count, enough, few, fewer, empty⟩
        exact ⟨rest, member, near, far, rfl, ⟨before, enough, few, early⟩, late⟩
      · rintro ⟨rest, member, near, far, rfl, ⟨before, enough, few, early⟩, late⟩
        obtain ⟨count, enough, few, fewer, empty⟩ := (exists_rounds_iff more).mpr ⟨enough, few⟩
        exact ⟨count, enough, few, before, fewer, empty, near, far, rfl, early,
          (ih _ _).mpr ⟨rest, member, late⟩⟩
  | capture index body ih => exact ih previous front
  | concat head tail first second =>
    simp only [Matches, fronts, List.mem_append, List.mem_map, or_and_right, exists_or,
      exists_exists_and_eq_and, andThen_snoc_iff, ← idles_iff]
    refine or_congr ?_ ?_
    · simp only [second, andThen]
      grind
    · cases idle : tail.idles ⟨some last, next⟩ <;> simp [first]
  | alternation head tail first second =>
    simp [Matches, fronts, first, second, or_and_right, exists_or]

theorem anyEnds_nil (next : Option Char) (before : List Char) : anyEnds next [] before = false := by
  cases before <;> rfl

theorem anyEnds_cons (next : Option Char) (exprs : List Expr) (last : Char) (before : List Char) :
    anyEnds next exprs (last :: before) ↔ exprs.any (idles ⟨some last, next⟩) ∨
      anyEnds (some last) (exprs.flatMap (fronts ⟨some last, next⟩ last)).eraseDups before := by
  simp only [anyEnds, Bool.or_eq_true, List.head?_cons]
  split
  · next none => simp [none, anyEnds_nil]
  · rfl

/-- The search from the end of a text finds a stretch if one of the expressions matches one. -/
theorem anyEnds_iff (next : Option Char) (exprs : List Expr) (before : List Char) :
    anyEnds next exprs before ↔ ∃ expr ∈ exprs, ∃ front rest, before = front.reverse ++ rest ∧
      expr.Matches rest.head? front next := by
  induction before generalizing next exprs with
  | nil => simp [anyEnds, idles_iff, eq_comm (a := [])]
  | cons last before ih =>
    -- A stretch is empty, or it has a last character, and then the search goes on before that.
    have cut (expr : Expr) : (∃ front rest, last :: before = front.reverse ++ rest ∧
        expr.Matches rest.head? front next) ↔
        expr.Matches (some last) [] next ∨ ∃ rest ∈ expr.fronts ⟨some last, next⟩ last,
          ∃ front more, before = front.reverse ++ more ∧
            rest.Matches more.head? front (some last) := by
      constructor
      · rintro ⟨front, more, same, way⟩
        rcases front.eq_nil_or_concat with rfl | ⟨front, char, rfl⟩
        · obtain rfl : last :: before = more := same
          exact .inl way
        · obtain ⟨rfl, rfl⟩ : last = char ∧ before = front.reverse ++ more := by simpa using same
          rw [List.concat_eq_append, matches_snoc_iff] at way
          obtain ⟨rest, member, way⟩ := way
          exact .inr ⟨rest, member, front, more, rfl, way⟩
      · rintro (way | ⟨rest, member, front, more, rfl, way⟩)
        · exact ⟨[], last :: before, rfl, way⟩
        · exact ⟨front ++ [last], more, by simp, (matches_snoc_iff ..).mpr ⟨rest, member, way⟩⟩
    simp only [anyEnds_cons, ih, cut, idles_iff, List.any_eq_true, List.mem_eraseDups,
      List.mem_flatMap]
    grind

/-- A stretch is not matched before the end of the text if the expression ends with it. -/
theorem eq_none_of_endsLast {expr : Expr} (last : expr.endsLast) {previous next : Option Char}
    {piece : List Char} (way : expr.Matches previous piece next) : next = none := by
  induction expr generalizing previous piece with
  | look assertion =>
    obtain rfl : assertion = .textEnd := of_decide_eq_true last
    exact Option.isNone_iff_eq_none.mp way.2
  | capture index body ih => exact ih last way
  | concat head tail _ ih =>
    obtain ⟨near, far, -, -, way⟩ := way
    exact ih last way
  | alternation head tail first second =>
    obtain ⟨lastFirst, lastSecond⟩ := (Bool.and_eq_true _ _).mp last
    exact way.elim (first lastFirst) (second lastSecond)
  | empty | literal | set | repetition => cases last

/-- An expression occurs in a text if it matches some stretch of it. -/
theorem occurs_iff (expr : Expr) (next : Option Char) (before : List Char) :
    expr.occurs next before ↔ ∃ back front rest : List Char,
      before = back.reverse ++ (front.reverse ++ rest) ∧
        expr.Matches rest.head? front (back.head?.or next) := by
  -- By the text from its end: a stretch ends here or further on in the search.
  induction before generalizing next with
  | nil =>
    simp only [occurs, Bool.or_false, anyEnds_iff, List.mem_singleton, exists_eq_left]
    constructor
    · rintro ⟨front, rest, split, way⟩
      exact ⟨[], front, rest, split, way⟩
    · rintro ⟨back, front, rest, split, way⟩
      obtain ⟨none, -⟩ := List.append_eq_nil_iff.mp split.symm
      obtain rfl := List.reverse_eq_nil_iff.mp none
      exact ⟨front, rest, split, way⟩
  | cons last before ih =>
    simp only [occurs, Bool.or_eq_true, Bool.and_eq_true, Bool.not_eq_true', anyEnds_iff,
      List.mem_singleton, exists_eq_left, ih]
    constructor
    · rintro (⟨front, rest, split, way⟩ | ⟨-, back, front, rest, rfl, way⟩)
      · exact ⟨[], front, rest, split, way⟩
      · exact ⟨back ++ [last], front, rest, by simp,
          by simpa [List.head?_append, Option.or_assoc] using way⟩
    · rintro ⟨back, front, rest, split, way⟩
      rcases back.eq_nil_or_concat with rfl | ⟨back, char, rfl⟩
      · exact .inl ⟨front, rest, split, way⟩
      · obtain ⟨rfl, rfl⟩ : last = char ∧ before = back.reverse ++ (front.reverse ++ rest) := by
          simpa using split
        have way : expr.Matches rest.head? front (back.head?.or (some last)) := by
          simpa [List.head?_append, Option.or_assoc] using way
        refine .inr ⟨?_, back, front, rest, rfl, way⟩
        refine Bool.eq_false_iff.mpr fun ends => ?_
        -- The last character of the text stands after the stretch.
        have none := eq_none_of_endsLast ends way
        cases back <;> cases none

/-! ### Sequences -/

theorem matches_ofParts (parts : List Expr) :
    (ofParts parts).Matches = inTurn (parts.map Matches) := by
  induction parts with
  | nil => rfl
  | cons part parts ih =>
    cases parts with
    | nil => exact andThen_idle.symm
    | cons next parts => exact congrArg part.Matches.andThen ih

theorem inTurn_parts (expr : Expr) : inTurn (expr.parts.map Matches) = expr.Matches := by
  induction expr with
  | concat head tail _ ih => exact congrArg head.Matches.andThen ih
  | empty => rfl
  | _ => exact andThen_idle

theorem matches_literal_append (left right : List Char) :
    (literal (left ++ right)).Matches = (literal left).Matches.andThen (literal right).Matches := by
  funext previous piece next
  simp [Matches, andThen]

theorem inTurn_joinLiterals (parts : List Expr) :
    inTurn ((joinLiterals parts).map Matches) = inTurn (parts.map Matches) := by
  induction parts with
  | nil => rfl
  | cons part parts ih =>
    unfold joinLiterals
    split
    · next left right more joined =>
      rw [joined] at ih
      rw [List.map_cons, inTurn_cons, matches_literal_append, andThen_assoc]
      exact congrArg (literal left).Matches.andThen ih
    · exact congrArg (andThen _) ih

/-- Joining the parts of a sequence keeps what they match. -/
theorem matches_sequence (exprs : List Expr) :
    (sequence exprs).Matches = inTurn (exprs.map Matches) := by
  rw [sequence, matches_ofParts, inTurn_joinLiterals]
  induction exprs with
  | nil => rfl
  | cons expr exprs ih =>
    rw [List.flatMap_cons, List.map_append, inTurn_append, inTurn_parts, ih, List.map_cons,
      inTurn_cons]

end Expr

end RuleLexer.Regex
