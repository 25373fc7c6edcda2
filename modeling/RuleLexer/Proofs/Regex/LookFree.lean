import RuleLexer.Proofs.Regex.Consumption

/-!
# Patterns that do not look around

What lies before the place of a match is seen by two things only: the look-behind of a pattern, and
the assertions in its expression, which are told the character before the place. A pattern that has
neither matches the same at a place in the middle of a text as at the beginning of the text that is
left there.

The character before a place is known to a search at its first place alone; at every later one it is
the character that has just been consumed. So it is enough to see that the outcomes of a program
without assertions do not depend on what is around a place.

## Main result

`Pattern.matchHere?_eq_of_lookFree`: a pattern that does not look around matches the same whatever
comes before the place.
-/
namespace RuleLexer

namespace Regex

/-- No assertion stands anywhere in an expression. -/
def Expr.lookFree : Expr → Bool
  | .empty | .literal _ | .set _ => true
  | .look _ => false
  | .repetition _ _ _ body | .capture _ body => body.lookFree
  | .concat head tail | .alternation head tail => head.lookFree && tail.lookFree

namespace Program

/-- No assertion stands anywhere in a program. -/
def lookFree : Program → Bool
  | done | literal _ | set _ | openGroup _ | closeGroup _ => true
  | look _ => false
  | seq first second | alt first second => first.lookFree && second.lookFree
  | mark _ body | rounds _ _ body => body.lookFree

/-! ### Programs of expressions -/

variable {first second tail : Program} {body : Nat → Program × Nat}

theorem lookFree_seq (head : first.lookFree) (rest : second.lookFree) :
    (seq first second).lookFree := by
  rw [lookFree, head, rest]
  rfl

theorem lookFree_alt (preferred : first.lookFree) (other : second.lookFree) :
    (alt first second).lookFree := by
  rw [lookFree, preferred, other]
  rfl

theorem lookFree_andThen (head : first.lookFree) (rest : second.lookFree) :
    (first.andThen second).lookFree := by
  unfold andThen
  split
  · exact rest
  · exact lookFree_seq head rest

theorem lookFree_optional (free : first.lookFree) (greedy : Bool) :
    (optional greedy first).lookFree := by
  unfold optional
  split
  · exact lookFree_alt free rfl
  · exact lookFree_alt rfl free

theorem lookFree_marked (free : first.lookFree) (marking : Bool) (label : Nat) :
    (marked marking first label).1.lookFree := by
  unfold marked
  split
  · exact free
  · exact free

theorem lookFree_copies (each : ∀ label, (body label).1.lookFree) (free : tail.lookFree)
    (count label : Nat) : (copies body count tail label).1.lookFree := by
  induction count generalizing tail label with
  | zero => exact free
  | succ count ih => exact ih (lookFree_andThen (each label) free) _

theorem lookFree_optionalCopies (each : ∀ label, (body label).1.lookFree) (free : tail.lookFree)
    (marking greedy : Bool) (count label : Nat) :
    (optionalCopies marking greedy body count tail label).1.lookFree := by
  induction count generalizing tail label with
  | zero => exact free
  | succ count ih =>
    have copy := lookFree_optional (lookFree_andThen (each label) free) greedy
    exact ih (lookFree_marked copy marking _) _

theorem lookFree_onceOrMore (each : ∀ label, (body label).1.lookFree) (greedy : Bool)
    (label : Nat) : (onceOrMore greedy body label).1.lookFree :=
  lookFree_andThen (each label) (each label)

/-- The program of an expression without assertions has none. -/
theorem lookFree_ofExprFrom {expr : Expr} (free : expr.lookFree) (marking continued : Bool)
    (label : Nat) : (ofExprFrom marking continued expr label).1.lookFree := by
  induction expr generalizing marking continued label with
  | empty | literal _ | set _ => rfl
  | look _ => cases free
  | capture index body ih =>
    exact lookFree_seq rfl (lookFree_andThen (ih free marking false label) rfl)
  | concat head tail ihHead ihTail =>
    obtain ⟨head, tail⟩ := Bool.and_eq_true_iff.mp free
    exact lookFree_andThen (ihHead head marking false label) (ihTail tail marking false _)
  | alternation head tail ihHead ihTail =>
    obtain ⟨head, tail⟩ := Bool.and_eq_true_iff.mp free
    apply lookFree_marked
    exact lookFree_alt (ihHead head marking false label) (ihTail tail marking true _)
  | repetition least most greedy body ih =>
    have each (marking : Bool) (label : Nat) :
        (ofExprFrom marking false body label).1.lookFree := ih free marking false label
    have more (marking : Bool) (label : Nat) := lookFree_onceOrMore (each marking) greedy label
    cases most with
    | some most =>
      exact lookFree_copies (each marking)
        (lookFree_optionalCopies (each marking) rfl marking greedy _ label) least _
    | none =>
      simp only [ofExprFrom]
      split
      · cases least with
        | zero => exact each marking label
        | succ least => exact lookFree_copies (each marking) (more marking label) least _
      · cases least with
        | zero => exact lookFree_marked (lookFree_optional (more true label) greedy) marking _
        | succ least => exact lookFree_copies (each marking) (more true label) least _

/-! ### Runs -/

variable {program : Program} {place other : Place}

/-- What a program without assertions does at a place depends on the character to consume and on the
offset of the place, and on nothing else around it. -/
theorem outcomes_eq_of_lookFree (free : program.lookFree) (offset : other.offset = place.offset)
    (input : other.input = place.input) (passed : List Nat) (groups : Groups) :
    program.outcomes other passed groups = program.outcomes place passed groups := by
  induction program generalizing passed groups with
  | done => rfl
  | literal chars => rcases chars with _ | ⟨char, _ | _⟩ <;> simp only [outcomes, input]
  | set chars => simp only [outcomes, input]
  | look assertion => cases free
  | seq first second ihFirst ihSecond =>
    obtain ⟨first, second⟩ := Bool.and_eq_true_iff.mp free
    simp only [outcomes, ihFirst first, ihSecond second]
  | alt preferred less ihPreferred ihLess =>
    obtain ⟨preferred, less⟩ := Bool.and_eq_true_iff.mp free
    simp only [outcomes, ihPreferred preferred, ihLess less]
  | mark label body ih => simp only [outcomes, ih free]
  | rounds label greedy body ih => simp only [outcomes, ih free]
  | openGroup group | closeGroup group => simp only [outcomes, offset]

theorem run_eq_of_lookFree (free : program.lookFree) (previous instead : Option Char)
    (text : List Char) : program.run instead text = program.run previous text := by
  -- Only at the first place of the search is the character before the text seen.
  have first : program.outcomes ⟨⟨instead, text.head?⟩, 0, text.head?⟩ [] .none =
      program.outcomes ⟨⟨previous, text.head?⟩, 0, text.head?⟩ [] .none := by
    apply outcomes_eq_of_lookFree free
    · rfl
    · rfl
  unfold run advance
  simp only [List.flatMap_singleton, first]

end Program

end Regex

namespace Pattern

variable {options : PatternOptions} {source : String} {pattern : Pattern}

/-- A pattern has no look-behind, and no assertion stands in the expression that it is read from. -/
def lookFree (options : PatternOptions) (pattern : Pattern) : Bool :=
  pattern.lookbehind.isNone &&
    (readExpr options (body pattern.source)).toOption.any Regex.Expr.lookFree

/-- A pattern that does not look around matches the same whatever comes before the place. -/
theorem matchHere?_eq_of_lookFree (compiled : compile options source = .ok pattern)
    (free : pattern.lookFree options) (before instead after : List Char) :
    pattern.matchHere? instead after = pattern.matchHere? before after := by
  obtain ⟨expr, read, program, -, -, rfl⟩ := compile_eq_ok compiled
  obtain ⟨unguarded, free⟩ := Bool.and_eq_true_iff.mp free
  rw [Option.isNone_iff_eq_none] at unguarded
  have free : expr.lookFree := by simpa [read, Except.toOption] using free
  have run := Regex.Program.run_eq_of_lookFree
    (Regex.Program.lookFree_ofExprFrom free false false 0) before.head? instead.head? after
  have run : pattern.program.run instead.head? after = pattern.program.run before.head? after := by
    rwa [program]
  simp only [matchHere?, unguarded, Option.all_none, if_true, run]

/-- A caret within brackets is no assertion, and one outside of them is. -/
example : (compile {} "[^a]").toOption.map (lookFree {}) = some true ∧
    (compile {} "^a").toOption.map (lookFree {}) = some false := by
  decide +kernel

end Pattern

end RuleLexer
