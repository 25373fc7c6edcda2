import RuleLexer.Proofs.Tokens.Buffer

/-!
# Delivery

Asking a stream for one token after the other gives the tokens of the whole run, in order and each
of them once, and leaves the outer engine where the whole run ends. Since the whole run of a nested
engine is a part of the whole run around it, this holds at any depth of nesting.

## Main result

`tokenizeFrom_delivers_run`: a stream delivers exactly the tokens of the whole run, and ends where
the whole run ends.
-/
namespace RuleLexer

open Engine Text

namespace Tokens

variable {tokens after : Tokens} {answer : Option Token} {steps : Nat}

/-! ### Drained streams -/

/-- Nothing is pending in a stream, and its text is at an end. -/
structure Drained (tokens : Tokens) : Prop where
  after : tokens.outer.engine.after = []
  inner : tokens.inner = []
  pending : tokens.outer.pending = []

namespace Drained

variable (drained : tokens.Drained)

include drained

theorem buffered_eq : tokens.buffered = [] := by
  simp [buffered, drained.inner, Frame.buffered_of_pending drained.pending]

theorem remaining_eq : tokens.remaining = [] := by
  simp [remaining, drained.buffered_eq, Engine.run_of_drained drained.after]

/-- A drained stream stays as it is when it is asked. -/
theorem next : tokens.next = (none, tokens) := by
  have moved : tokens.current.move tokens.library = .drained := by
    simp [current, drained.inner, Frame.move, drained.pending, drained.after]
  unfold Tokens.next
  cases tokens.budget with
  | zero => rfl
  | succ moves => simp [nextWithin, moved, drained.inner]

theorem afterCalls (calls : Nat) : tokens.afterCalls calls = tokens := by
  induction calls with
  | zero => rfl
  | succ calls ih => rw [Tokens.afterCalls, ih, drained.next]

end Drained

theorem Served.drained (served : Served tokens none after) : after.Drained := by
  cases served with
  | exhausted empty steps silent drained outermost pending => exact ⟨drained, outermost, pending⟩

/-! ### What a call takes away -/

/-- A call takes the first token away from what remains. -/
theorem Served.remaining_eq (served : Served tokens answer after)
    (library : after.library = tokens.library) (base : after.outer.base = tokens.outer.base) :
    tokens.remaining = answer.toList ++ after.remaining := by
  cases served with
  | held first rests => simp [remaining, first, rests, library, base]
  | made empty steps silent nonempty first rests =>
    simp [remaining, empty, silent, Engine.run_of_nonempty nonempty, first, rests, library, base]
  | exhausted empty steps silent drained outermost pending =>
    have nothing : after.remaining = [] := (Drained.mk drained outermost pending).remaining_eq
    rw [nothing, remaining, empty, silent]
    rfl

/-- A call does not change how the run of the outer engine ends. -/
theorem Served.run_eq (served : Served tokens answer after) :
    (after.outer.engine.run tokens.library).2 = (tokens.outer.engine.run tokens.library).2 := by
  cases served with
  | held first rests => rw [rests]
  | made empty steps silent nonempty first rests => rw [rests, (steps.snoc nonempty).run_eq]
  | exhausted empty steps silent drained outermost pending => rw [steps.run_eq]

/-! ### What several calls take away -/

theorem Funded.remaining_next (funded : tokens.Funded) :
    tokens.remaining = tokens.next.1.toList ++ tokens.next.2.remaining := by
  obtain ⟨steps, answers⟩ := funded.answers_next
  obtain ⟨library, -, base⟩ := answers.unchanged
  exact answers.served.remaining_eq library base

/-- Some calls take as many tokens away from the front of what remains. -/
theorem Funded.take_eq (funded : tokens.Funded) (calls : Nat) :
    (tokens.take calls).1 = tokens.remaining.take calls := by
  induction calls generalizing tokens with
  | zero => simp [take]
  | succ calls ih =>
    obtain ⟨steps, answers⟩ := funded.answers_next
    have served := answers.served
    have remaining := funded.remaining_next
    have later := ih funded.next
    rcases found : tokens.next with ⟨_ | token, after⟩
    -- A call that gives no token finds a stream in which nothing remains.
    · rw [found] at served remaining
      simp [take, found, remaining, served.drained.remaining_eq]
    · rw [found] at remaining later
      simp [take, found, remaining, later]

/-- More calls than there are tokens left drain a stream. -/
theorem Funded.take_drains (funded : tokens.Funded) {calls : Nat}
    (enough : tokens.remaining.length < calls) :
    (tokens.take calls).2.Drained ∧
      (tokens.take calls).2.outer.engine = (tokens.outer.engine.run tokens.library).2 := by
  induction calls generalizing tokens with
  | zero => omega
  | succ calls ih =>
    obtain ⟨steps, answers⟩ := funded.answers_next
    have served := answers.served
    have library := answers.unchanged.1
    have remaining := funded.remaining_next
    have later := @ih _ funded.next
    rcases found : tokens.next with ⟨_ | token, after⟩
    · rw [found] at served
      have drained := served.drained
      have ended := served.run_eq
      rw [Engine.run_of_drained drained.after] at ended
      simp only [take, found]
      exact ⟨drained, ended⟩
    · rw [found] at served remaining later library
      rw [remaining] at enough
      obtain ⟨drained, ended⟩ := later (by simpa using enough)
      simp only [take, found]
      exact ⟨drained, by rw [ended, library, served.run_eq]⟩

/-! ### Whole streams -/

variable (library : Library) (table : RuleTable) (text : List Char) (state : String)

/-- A run has at most one token for each character. -/
theorem length_run_le :
    ((Engine.start table text state 0).run library).1.length ≤ text.length := by
  have spelled := (Engine.run_spells library (.start table text state 0)).length_le
  simpa [Engine.start] using spelled

theorem drain_start :
    (start library table text state).drain.1 = ((Engine.start table text state 0).run library).1 ∧
      (start library table text state).drain.2.Drained ∧
        (start library table text state).drain.2.outer.engine =
          ((Engine.start table text state 0).run library).2 := by
  have funded := funded_start library table text state
  have remaining := remaining_start library table text state
  have length := length_run_le library table text state
  have enough : (start library table text state).remaining.length <
      (start library table text state).budget := by
    rw [remaining]
    simp only [start, workBound, movesPerChar, Nat.mul_add]
    omega
  refine ⟨?_, funded.take_drains enough⟩
  rw [drain, funded.take_eq, List.take_of_length_le (by omega), remaining]

/-- The tokens of a drained stream spell the text. -/
theorem drain_spells :
    Spells 0 ((start library table text state).drain.1.map Token.span) text := by
  rw [(drain_start library table text state).1]
  exact Engine.run_spells library (.start table text state 0)

end Tokens

/-- **Delivery.** However many tokens are asked for, a stream delivers the first tokens of the whole
run. When it is drained it has delivered all of them, and its cursor and its stack are those at the
end of the run. The whole run makes step after step until no text is left. What it runs at once in
the place of a part that the firing rule gives to a delegate is a fresh engine, one level deeper,
over just this part, with the table and from the state that the delegate names. Where these are
missing it is the running table, or the root. -/
theorem tokenizeFrom_delivers_run (library : Library) (table : RuleTable) (text : List Char)
    (state : String) :
    let stream := table.tokenizeFrom library text state
    let origin := Engine.start table text state 0
    let whole := origin.run library
    (∀ calls, (stream.take calls).1 = whole.1.take calls) ∧
    (∀ calls, whole.1.length < calls → (stream.take calls).2.cursor = whole.2.cursor ∧
      (stream.take calls).2.stateStack = whole.2.stack.toList) ∧
    (stream.drain.1 = whole.1 ∧ stream.drain.2.cursor = whole.2.cursor ∧
      stream.drain.2.stateStack = whole.2.stack.toList) ∧
    (∃ count, Steps library count origin whole.2) ∧ whole.2.after = [] ∧
    ∀ engine, Reaches library origin engine → engine.after ≠ [] → ∀ offset inner,
      Item.nested offset inner ∈ (engine.step library).1 →
      ∃ rule found part delegate piece, engine.firing? = some (rule, found) ∧
        part ∈ Part.ofMatch rule.action found ∧ part.action = .delegate delegate ∧
        offset = engine.cursor + part.start ∧
        slice? engine.text offset (engine.cursor + part.stop) = some piece ∧ piece ≠ [] ∧
        engine.depth < engine.table.options.run.maxDelegateDepth ∧
        let running := (delegate.target.table? library engine.table).getD engine.table
        running ∈ engine.table :: library ∧
        inner = .start running piece
          ((delegate.state.filter running.hasState).getD RuleTable.rootName)
          (engine.depth + 1) := by
  intro stream origin whole
  have funded : stream.Funded := Tokens.funded_start library table text state
  have remaining : stream.remaining = whole.1 := Tokens.remaining_start library table text state
  obtain ⟨delivered, -, ended⟩ := Tokens.drain_start library table text state
  have ended : stream.drain.2.outer.engine = whole.2 := ended
  obtain ⟨steps, finished⟩ := steps_run library origin
  refine ⟨?_, ?_, ⟨delivered, ?_, ?_⟩, steps, finished, ?_⟩
  · intro calls
    rw [funded.take_eq, remaining]
  · intro calls enough
    obtain ⟨-, final⟩ := funded.take_drains (remaining ▸ enough)
    have final : (stream.take calls).2.outer.engine = whole.2 := final
    rw [Tokens.cursor, Tokens.stateStack, final]
    exact ⟨rfl, rfl⟩
  · rw [Tokens.cursor, ended]
  · rw [Tokens.stateStack, ended]
  · intro engine reached nonempty offset inner handed
    exact reached.exists_delegate (aligned_start table text state 0) nonempty handed

end RuleLexer
