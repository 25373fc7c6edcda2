import RuleLexer.Proofs.Tokens.Termination

/-!
# The law of the state stack

A transition changes the stack as if it were a list of names with a limit on its length: states are
added behind the last one as long as there is room for them, and taken away from there as long as
the first one is left. `Transition.applied` says this on lists, from the bottom up, and the stack of
an engine follows it at every step that fires a rule. A step that gives a character up leaves the
stack alone, or cuts it down to its bottom at a line end. Hence no step touches the bottom, and no
step makes a stack higher than the limit unless it was higher before.

## Main result

`tokenizeFrom_stackLaw`: the law holds of every engine that a tokenization brings about.
-/
namespace RuleLexer

/-- What a transition makes of the names on a stack, from the bottom up. -/
def Transition.applied (limit : Nat) (names : List String) : Transition → List String
  | .stay => names
  | .push state => if names.length < limit then names ++ [state] else names
  | .pushCurrent => if names.length < limit then names ++ names.getLast?.toList else names
  | .pop count => names.take (max 1 (names.length - count))
  | .pushAll states => names ++ states.take (limit - names.length)

namespace Transition

variable {limit : Nat} {names : List String}

theorem length_applied_le (next : Transition) :
    (next.applied limit names).length ≤ max names.length limit := by
  cases next with
  | stay => exact Nat.le_max_left _ _
  | push state =>
    simp only [applied]
    split
    · simp only [List.length_append, List.length_singleton]
      omega
    · exact Nat.le_max_left _ _
  | pushCurrent =>
    have one : names.getLast?.toList.length ≤ 1 := by cases names.getLast? <;> simp
    simp only [applied]
    split
    · simp only [List.length_append]
      omega
    · exact Nat.le_max_left _ _
  | pop count =>
    simp only [applied, List.length_take]
    omega
  | pushAll states =>
    simp only [applied, List.length_append, List.length_take]
    omega

theorem head?_applied (next : Transition) (nonempty : names ≠ []) :
    (next.applied limit names).head? = names.head? := by
  have added (more : List String) : (names ++ more).head? = names.head? := by
    obtain ⟨first, rest, rfl⟩ := List.exists_cons_of_ne_nil nonempty
    rfl
  cases next with
  | stay => rfl
  | push state =>
    simp only [applied]
    split
    · exact added _
    · rfl
  | pushCurrent =>
    simp only [applied]
    split
    · exact added _
    · rfl
  | pop count =>
    have some : max 1 (names.length - count) ≠ 0 := by omega
    simp only [applied, List.head?_take, if_neg some]
  | pushAll states => exact added _

end Transition

namespace StateStack

variable {stack : StateStack} {limit : Nat} {state : String}

theorem toList_ne_nil : stack.toList ≠ [] := List.cons_ne_nil _ _

theorem length_toList : stack.toList.length = stack.height := by
  simp [toList, height]

theorem getLast?_toList : stack.toList.getLast? = some stack.top := by
  obtain ⟨bottom, above⟩ := stack
  cases above with
  | nil => rfl
  | cons first rest => simp [toList, top, List.getLast?_cons]

theorem toList_push :
    (stack.push limit state).toList =
      if stack.height < limit then stack.toList ++ [state] else stack.toList := by
  unfold push
  split
  · simp [toList]
  · rfl

theorem toList_pop (count : Nat) :
    (stack.pop count).toList = stack.toList.take (max 1 (stack.height - count)) := by
  -- The states above the bottom are held from the top down, so the last names are dropped.
  have kept : max 1 (stack.height - count) = stack.above.length - count + 1 := by
    simp only [height]
    omega
  simp [toList, pop, kept, List.reverse_drop]

theorem toList_foldl_push (states : List String) :
    (states.foldl (push limit) stack).toList =
      stack.toList ++ states.take (limit - stack.height) := by
  induction states generalizing stack with
  | nil => simp
  | cons state states ih =>
    rw [List.foldl_cons, ih, ← length_toList, toList_push]
    by_cases room : stack.height < limit
    · have more : limit - stack.height = limit - (stack.height + 1) + 1 := by omega
      simp [room, more, length_toList]
    · have full : limit - stack.height = 0 := by omega
      simp [room, full, length_toList]

theorem toList_apply (next : Transition) :
    (stack.apply limit next).toList = next.applied limit stack.toList := by
  cases next with
  | stay => rfl
  | push state => rw [apply, toList_push, Transition.applied, length_toList]
  | pushCurrent =>
    rw [apply, toList_push, Transition.applied, length_toList, getLast?_toList]
    rfl
  | pop count => rw [apply, toList_pop, Transition.applied, length_toList]
  | pushAll states => rw [apply, toList_foldl_push, Transition.applied, length_toList]

theorem toList_reset : stack.reset.toList = stack.toList.take 1 := rfl

end StateStack

namespace Engine

variable {library : Library} {engine later origin : Engine} {count : Nat}

/-! ### Steps -/

theorem stack_step_of_fires {rule : Rule} {found : Match}
    (fires : engine.firing? = some (rule, found)) :
    (engine.step library).2.stack.toList =
      rule.next.applied engine.table.options.run.maxStackDepth engine.stack.toList := by
  rw [step, fires]
  exact StateStack.toList_apply _

/-- A character that is given up leaves the stack alone unless it is a line end that resets it. -/
theorem stack_step_of_silent (silent : engine.firing? = none) :
    (engine.step library).2.stack.toList =
      if engine.after.head? = some '\n' ∧ engine.table.options.run.resetOnNewline then
        engine.stack.toList.take 1
      else engine.stack.toList := by
  rw [step, silent]
  unfold recover
  cases split : engine.after with
  | nil => simp
  | cons char rest =>
    simp only [List.head?_cons, Option.some.injEq]
    split
    · exact StateStack.toList_reset
    · rw [stack_move]

theorem head?_stack_step :
    (engine.step library).2.stack.toList.head? = engine.stack.toList.head? := by
  cases fires : engine.firing? with
  | none =>
    rw [stack_step_of_silent fires]
    split <;> rfl
  | some firing =>
    rw [stack_step_of_fires fires]
    exact firing.1.next.head?_applied StateStack.toList_ne_nil

theorem length_stack_step_le :
    (engine.step library).2.stack.toList.length ≤
      max engine.stack.toList.length engine.table.options.run.maxStackDepth := by
  cases fires : engine.firing? with
  | none =>
    rw [stack_step_of_silent fires]
    split
    · simp only [List.length_take]
      omega
    · exact Nat.le_max_left _ _
  | some firing =>
    rw [stack_step_of_fires fires]
    exact firing.1.next.length_applied_le

/-! ### Runs -/

theorem Steps.head?_stack (steps : Steps library count engine later) :
    later.stack.toList.head? = engine.stack.toList.head? := by
  induction steps with
  | refl => rfl
  | step _ _ ih => rw [ih, head?_stack_step]

theorem Steps.length_stack_le (steps : Steps library count engine later) :
    later.stack.toList.length ≤
      max engine.stack.toList.length later.table.options.run.maxStackDepth ∧
      later.table = engine.table := by
  induction steps with
  | refl => exact ⟨Nat.le_max_left _ _, rfl⟩
  | @step _ engine later nonempty _ ih =>
    obtain ⟨front, passes, -⟩ := step_passes library engine nonempty
    -- The limit belongs to the table, which is the same at every step.
    obtain ⟨bound, same⟩ := ih
    have table := same.trans passes.table
    have first := @length_stack_step_le library engine
    rw [table] at bound ⊢
    exact ⟨by omega, rfl⟩

/-- How the stack of an engine stands, and what the next step makes of it. -/
structure StackLaw (library : Library) (engine origin : Engine) : Prop where
  /-- The state at the bottom is the one that the engine was started in. -/
  bottom : ∃ running part initial count,
    Reaches library origin (.start running part initial engine.depth) ∧
    Steps library count (.start running part initial engine.depth) engine ∧
    engine.stack.toList.head? = some initial
  nonempty : engine.stack.toList ≠ []
  height : engine.stack.toList.length ≤ max 1 engine.table.options.run.maxStackDepth
  /-- The rules that are tried are those of the last state. -/
  top : engine.stack.toList.getLast? = some engine.stack.top
  fired : ∀ rule found, engine.firing? = some (rule, found) →
    (engine.step library).2.stack.toList =
      rule.next.applied engine.table.options.run.maxStackDepth engine.stack.toList
  recovered : engine.firing? = none →
    (engine.step library).2.stack.toList =
      if engine.after.head? = some '\n' ∧ engine.table.options.run.resetOnNewline then
        engine.stack.toList.take 1
      else engine.stack.toList

theorem Reaches.stackLaw {table : RuleTable} {text : List Char} {state : String}
    (reached : Reaches library (.start table text state 0) engine) :
    engine.StackLaw library (.start table text state 0) := by
  obtain ⟨running, part, initial, begun, count, steps⟩ := reached.exists_start
  refine ⟨⟨running, part, initial, count, begun, steps, steps.head?_stack⟩,
    StateStack.toList_ne_nil, steps.length_stack_le.1, StateStack.getLast?_toList, ?_, ?_⟩
  · intro rule found fires
    exact stack_step_of_fires fires
  · exact stack_step_of_silent

end Engine

/-- **The stack.** Every engine that a tokenization brings about, at whatever step, and hence every
engine that a stream holds after any number of calls, has a stack that is not empty, whose bottom is
the state that the engine was started in, and whose height is at most the limit, or one if the limit
is less. A step that fires a rule changes it by the transition of the rule and in no other way, and a
step that gives a character up leaves it as it is or, at a line end that resets it, leaves its
bottom. -/
theorem tokenizeFrom_stackLaw (library : Library) (table : RuleTable) (text : List Char)
    (state : String) :
    let origin := Engine.start table text state 0
    (∀ engine, Engine.Reaches library origin engine → engine.StackLaw library origin) ∧
    ∀ calls, ∀ frame ∈ ((table.tokenizeFrom library text state).afterCalls calls).frames,
      frame.engine.StackLaw library origin := by
  intro origin
  refine ⟨fun engine reached => reached.stackLaw, ?_⟩
  intro calls frame member
  exact (Tokens.reaches_of_mem_frames member).stackLaw

end RuleLexer
