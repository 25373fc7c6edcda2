import RuleLexer.Proofs.Tokens.Buffer

/-!
# What can be seen of a stream

Whoever asks a stream for tokens sees the answers and, between the calls, the cursor and the stack
of the outer engine. Frames, nested engines and budgets stay hidden, and so does the table. All that
is seen follows from what the steps of the outer engine yield, one after the other: the tokens that
come of a step and the cursor and the stack after it. A call on a stream is a call on its view, which
holds nothing else, so two streams whose engines yield the same cannot be told apart.

## Main results

* `Funded.next_view`: a call on a stream is a call on its view.
* `equivalent_of_yields_eq`: streams over engines that yield the same are equivalent.
-/
namespace RuleLexer

/-- What can be seen of a step. -/
structure Yield where
  /-- What the step puts out, with nested engines run to their ends. -/
  tokens : List Token
  cursor : Nat
  /-- The stack after the step, from the bottom up. -/
  stack : List String
deriving DecidableEq, Repr

namespace Engine

variable {library : Library} {engine : Engine}

def yield (library : Library) (engine : Engine) : Yield where
  tokens := Item.tokens library (engine.step library).1
  cursor := (engine.step library).2.cursor
  stack := (engine.step library).2.stack.toList

/-- What all steps yield that an engine makes until no text is left. -/
def yields (library : Library) (engine : Engine) : List Yield :=
  if engine.after = [] then [] else engine.yield library :: (engine.step library).2.yields library
termination_by engine.work library
decreasing_by exact work_step_lt ‹_›

theorem yields_of_drained (drained : engine.after = []) : engine.yields library = [] := by
  rw [yields, if_pos drained]

theorem yields_of_nonempty (nonempty : engine.after ≠ []) :
    engine.yields library = engine.yield library :: (engine.step library).2.yields library := by
  rw [yields, if_neg nonempty]

/-- The tokens of a run are those that its steps yield. -/
theorem run_tokens_eq (library : Library) (engine : Engine) :
    (engine.run library).1 = (engine.yields library).flatMap Yield.tokens := by
  induction engine using run_induction library with
  | drained engine drained =>
    rw [run_of_drained drained, yields_of_drained drained]
    rfl
  | stepped engine nonempty ih _ =>
    rw [run_of_nonempty nonempty, yields_of_nonempty nonempty, List.flatMap_cons, ih]
    rfl

end Engine

/-! ### Views -/

/-- What can be seen of a stream, now and later. -/
structure View where
  /-- The tokens that are delivered before the next step. -/
  held : List Token
  /-- What the steps to come yield. -/
  later : List Yield
  cursor : Nat
  stack : List String

/-- The next answer, and the view after it. Steps are made only while nothing is held. -/
def View.next : View → Option Token × View
  | ⟨token :: held, later, cursor, stack⟩ => (some token, ⟨held, later, cursor, stack⟩)
  | ⟨[], [], cursor, stack⟩ => (none, ⟨[], [], cursor, stack⟩)
  | ⟨[], first :: later, _, _⟩ => next ⟨first.tokens, later, first.cursor, first.stack⟩
termination_by view => view.later.length

/-- The view after a number of calls. -/
def View.afterCalls : Nat → View → View
  | 0, view => view
  | calls + 1, view => (afterCalls calls view).next.2

namespace Tokens

variable {tokens after : Tokens} {answer : Option Token} {steps : Nat}

def view (tokens : Tokens) : View where
  held := tokens.buffered
  later := tokens.outer.engine.yields tokens.library
  cursor := tokens.cursor
  stack := tokens.stateStack

/-- Nothing is seen of a move that leaves the outer engine and what is held alone. -/
theorem view_eq {moved : Tokens} (held : tokens.buffered = moved.buffered)
    (library : moved.library = tokens.library)
    (engine : moved.outer.engine = tokens.outer.engine) : tokens.view = moved.view := by
  simp only [view, cursor, stateStack, held, library, engine]

/-- A step of the outer engine takes place in a view from which nothing else can be delivered. -/
theorem next_view_of_step {moved : Tokens} (empty : tokens.buffered = [])
    (nonempty : tokens.outer.engine.after ≠ [])
    (held : moved.buffered =
      Item.tokens tokens.library (tokens.outer.engine.step tokens.library).1)
    (library : moved.library = tokens.library)
    (engine : moved.outer.engine = (tokens.outer.engine.step tokens.library).2) :
    tokens.view.next = moved.view.next := by
  simp only [view, cursor, stateStack, empty, Engine.yields_of_nonempty nonempty, held, library,
    engine]
  rw [View.next]
  rfl

theorem Answers.next_view (answers : Answers steps tokens answer after)
    (base : tokens.outer.base = 0) : tokens.view.next = (answer, after.view) := by
  induction answers with
  | @delivered tokens token rest moved =>
    obtain ⟨first, rests⟩ := buffered_of_deliver moved
    simp only [view, cursor, stateStack, first, rests, withCurrent_library, View.next]
  -- To enter a nested engine, or to return from one that is drained, changes nothing that is held.
  | entered moved _ ih =>
    obtain ⟨held, engine⟩ := buffered_of_enter moved
    rw [view_eq held (withCurrent_library _ _) engine]
    exact ih ((withCurrent_base (Frame.base_of_enter moved)).trans base)
  | @stepped tokens after rest answer steps moved _ ih =>
    have further := ih ((withCurrent_base (Frame.base_of_work moved)).trans base)
    by_cases outermost : tokens.inner = []
    -- A step of the outer engine takes the first yield off those to come.
    · obtain ⟨current, here, there⟩ := buffered_of_outermost outermost
      rw [current] at moved
      obtain ⟨pending, nonempty, same⟩ := Frame.move_eq_work moved
      have empty : tokens.buffered = [] := here.trans (Frame.buffered_of_pending pending)
      rw [← further]
      apply next_view_of_step empty nonempty ?_ (withCurrent_library _ _)
      · rw [(there rest).2, same]
      · rw [(there rest).1, same, Frame.buffered, base, Token.shift_zero, List.map_id]
    -- What a nested engine puts out is held already, since it is part of what the outer one yields.
    · obtain ⟨others, here, there⟩ := exists_buffered outermost
      have held : tokens.buffered = (tokens.withCurrent rest).buffered := by
        rw [here, (there rest).1, Frame.remaining_of_work moved]
      rw [view_eq held (withCurrent_library _ _) (by rw [(there rest).2])]
      exact further
  | @returned tokens _ _ frames _ _ moved nested _ ih =>
    have same : tokens.view = view { tokens with inner := frames } :=
      view_eq (buffered_of_returned moved nested) rfl rfl
    rw [same]
    exact ih base
  | @finished tokens moved outermost =>
    obtain ⟨current, here, -⟩ := buffered_of_outermost outermost
    rw [current] at moved
    obtain ⟨pending, drained⟩ := Frame.move_eq_drained moved
    have empty : tokens.buffered = [] := here.trans (Frame.buffered_of_pending pending)
    simp only [view, empty, Engine.yields_of_drained drained, View.next]

/-- A call on a stream is a call on its view. -/
theorem Funded.next_view (funded : tokens.Funded) (base : tokens.outer.base = 0) :
    tokens.view.next = (tokens.next.1, tokens.next.2.view) := by
  obtain ⟨steps, answers⟩ := funded.answers_next
  exact answers.next_view base

/-- Calls on a stream are calls on its view. -/
theorem Funded.view_afterCalls (funded : tokens.Funded) (base : tokens.outer.base = 0)
    (calls : Nat) :
    (tokens.afterCalls calls).view = tokens.view.afterCalls calls ∧
      (tokens.afterCalls calls).next.1 = (tokens.view.afterCalls calls).next.1 := by
  have views : (tokens.afterCalls calls).view = tokens.view.afterCalls calls := by
    induction calls with
    | zero => rfl
    | succ calls ih =>
      have called := (funded.afterCalls calls).next_view ((funded.unchanged calls).2.2.trans base)
      rw [View.afterCalls, ← ih, called]
      rfl
  have called := (funded.afterCalls calls).next_view ((funded.unchanged calls).2.2.trans base)
  exact ⟨views, by rw [← views, called]⟩

/-! ### Streams that look alike -/

/-- Two streams cannot be told apart: however many calls have been made, both give the same answer
to the next one, and their cursors and their stacks are the same. -/
def Equivalent (first second : Tokens) : Prop :=
  ∀ calls, (second.afterCalls calls).next.1 = (first.afterCalls calls).next.1 ∧
    (second.afterCalls calls).cursor = (first.afterCalls calls).cursor ∧
    (second.afterCalls calls).stateStack = (first.afterCalls calls).stateStack

/-- Streams over engines that yield the same are equivalent. -/
theorem equivalent_of_yields_eq {library other : Library} {table twin : RuleTable}
    {text : List Char} {state : String}
    (same : (Engine.start twin text state 0).yields other =
      (Engine.start table text state 0).yields library) :
    (table.tokenizeFrom library text state).Equivalent (twin.tokenizeFrom other text state) := by
  have sameView : (start other twin text state).view = (start library table text state).view := by
    simp only [view, buffered_start]
    exact congrArg (fun later => (⟨[], later, 0, [state]⟩ : View)) same
  intro calls
  obtain ⟨view, answer⟩ := (funded_start library table text state).view_afterCalls rfl calls
  obtain ⟨viewTwin, answerTwin⟩ := (funded_start other twin text state).view_afterCalls rfl calls
  rw [sameView] at viewTwin answerTwin
  have views := viewTwin.trans view.symm
  exact ⟨answerTwin.trans answer.symm, congrArg View.cursor views, congrArg View.stack views⟩

end Tokens

end RuleLexer
