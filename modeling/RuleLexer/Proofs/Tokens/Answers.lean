import RuleLexer.Proofs.Engine.Run

/-!
# Calls for a token

A call moves from frame to frame until one of them delivers a token or the outermost one is drained.
`Answers` follows these moves without a budget, so a call that had to be cut short has no answer.
Every move leaves less work, and the budget of a stream covers the work that is left in it: no call
is ever cut short, and whatever is proved along the moves of an answer holds of `Tokens.next`.

## Main result

`Funded.answers_next`: a call comes to its answer within the budget.
-/
namespace RuleLexer

/-! ### Moves of a frame -/

namespace Frame

variable {library : Library} {frame rest inner : Frame} {token : Token}

theorem move_eq_deliver (moved : frame.move library = .deliver token rest) :
    ∃ raw items, frame.pending = .token raw :: items ∧ token = raw.shift frame.base ∧
      rest = { frame with pending := items } := by
  unfold move at moved
  split at moved
  next raw items pending =>
    cases moved
    exact ⟨raw, items, pending, rfl, rfl⟩
  next => cases moved
  next => split at moved <;> cases moved

theorem move_eq_enter (moved : frame.move library = .enter inner rest) :
    ∃ offset engine items, frame.pending = .nested offset engine :: items ∧
      inner = ofEngine (frame.base + offset) engine ∧ rest = { frame with pending := items } := by
  unfold move at moved
  split at moved
  next => cases moved
  next offset engine items pending =>
    cases moved
    exact ⟨offset, engine, items, pending, rfl, rfl⟩
  next => split at moved <;> cases moved

theorem move_eq_work (moved : frame.move library = .work rest) :
    frame.pending = [] ∧ frame.engine.after ≠ [] ∧
      rest = { frame with
        engine := (frame.engine.step library).2, pending := (frame.engine.step library).1 } := by
  unfold move at moved
  split at moved
  next => cases moved
  next => cases moved
  next pending =>
    split at moved
    next => cases moved
    next left =>
      cases moved
      exact ⟨pending, by simpa using left, rfl⟩

theorem move_eq_drained (moved : frame.move library = .drained) :
    frame.pending = [] ∧ frame.engine.after = [] := by
  unfold move at moved
  split at moved
  next => cases moved
  next => cases moved
  next pending =>
    split at moved
    next drained => exact ⟨pending, by simpa using drained⟩
    next => cases moved

theorem base_of_deliver (moved : frame.move library = .deliver token rest) :
    rest.base = frame.base := by
  obtain ⟨-, -, -, -, rfl⟩ := move_eq_deliver moved
  rfl

theorem base_of_enter (moved : frame.move library = .enter inner rest) :
    rest.base = frame.base := by
  obtain ⟨-, -, -, -, -, rfl⟩ := move_eq_enter moved
  rfl

theorem base_of_work (moved : frame.move library = .work rest) : rest.base = frame.base := by
  obtain ⟨-, -, rfl⟩ := move_eq_work moved
  rfl

/-- A bound on the moves that it takes to drain a frame. -/
def work (library : Library) (frame : Frame) : Nat :=
  (frame.pending.map (Item.work library)).sum + frame.engine.work library

theorem work_pos (library : Library) (frame : Frame) : 0 < frame.work library :=
  Nat.add_pos_right _ (Engine.work_pos library frame.engine)

theorem work_of_deliver (moved : frame.move library = .deliver token rest) :
    rest.work library < frame.work library := by
  obtain ⟨raw, items, pending, -, rfl⟩ := move_eq_deliver moved
  simp [work, pending, Item.work]

theorem work_of_enter (moved : frame.move library = .enter inner rest) :
    inner.work library + rest.work library < frame.work library := by
  obtain ⟨offset, engine, items, pending, rfl, rfl⟩ := move_eq_enter moved
  simp only [work, ofEngine, pending, List.map_nil, List.sum_nil, List.map_cons, List.sum_cons,
    Item.work]
  omega

theorem work_of_work (moved : frame.move library = .work rest) :
    rest.work library < frame.work library := by
  obtain ⟨pending, nonempty, rfl⟩ := move_eq_work moved
  have less := Engine.step_work library nonempty
  simpa [work, pending] using less

end Frame

namespace Tokens

variable {tokens after : Tokens} {answer : Option Token} {steps : Nat}

/-! ### Frames of a stream -/

/-- All frames of a stream, the innermost first. -/
def frames (tokens : Tokens) : List Frame := tokens.inner ++ [tokens.outer]

/-- Makes a frame the innermost one. -/
def enter (tokens : Tokens) (frame : Frame) : Tokens :=
  { tokens with inner := frame :: tokens.inner }

@[simp] theorem withCurrent_library (tokens : Tokens) (frame : Frame) :
    (tokens.withCurrent frame).library = tokens.library := by
  unfold withCurrent
  split <;> rfl

@[simp] theorem withCurrent_budget (tokens : Tokens) (frame : Frame) :
    (tokens.withCurrent frame).budget = tokens.budget := by
  unfold withCurrent
  split <;> rfl

/-- A move takes place in the first frame and leaves the others as they are. -/
theorem exists_frames (tokens : Tokens) :
    ∃ others, tokens.frames = tokens.current :: others ∧
      ∀ frame, (tokens.withCurrent frame).frames = frame :: others := by
  unfold frames current withCurrent
  cases tokens.inner with
  | nil => exact ⟨[], rfl, fun _ => rfl⟩
  | cons first rest => exact ⟨rest ++ [tokens.outer], rfl, fun _ => rfl⟩

/-! ### Answers -/

/-- What a call comes to, move by move: a token or none, and the stream after it. The steps that the
engines make on the way are counted. -/
inductive Answers : Nat → Tokens → Option Token → Tokens → Prop
  | delivered {tokens : Tokens} {token : Token} {rest : Frame}
      (moved : tokens.current.move tokens.library = .deliver token rest) :
      Answers 0 tokens (some token) (tokens.withCurrent rest)
  | entered {tokens after : Tokens} {inner rest : Frame} {answer : Option Token} {steps : Nat}
      (moved : tokens.current.move tokens.library = .enter inner rest)
      (later : Answers steps ((tokens.withCurrent rest).enter inner) answer after) :
      Answers steps tokens answer after
  | stepped {tokens after : Tokens} {rest : Frame} {answer : Option Token} {steps : Nat}
      (moved : tokens.current.move tokens.library = .work rest)
      (later : Answers steps (tokens.withCurrent rest) answer after) :
      Answers (steps + 1) tokens answer after
  | returned {tokens after : Tokens} {frame : Frame} {frames : List Frame} {answer : Option Token}
      {steps : Nat} (moved : tokens.current.move tokens.library = .drained)
      (nested : tokens.inner = frame :: frames)
      (later : Answers steps { tokens with inner := frames } answer after) :
      Answers steps tokens answer after
  | finished {tokens : Tokens} (moved : tokens.current.move tokens.library = .drained)
      (outermost : tokens.inner = []) : Answers 0 tokens none tokens

/-- A bound on the moves that it takes to drain a stream. -/
def work (tokens : Tokens) : Nat := (tokens.frames.map (Frame.work tokens.library)).sum

theorem work_pos (tokens : Tokens) : 0 < tokens.work := by
  have positive := Frame.work_pos tokens.library tokens.outer
  simp only [work, frames, List.map_append, List.sum_append, List.map_cons, List.sum_cons]
  omega

/-- A move changes only the work of the innermost frame. -/
theorem exists_work (tokens : Tokens) :
    ∃ others, tokens.work = tokens.current.work tokens.library + others ∧
      ∀ frame, (tokens.withCurrent frame).work = frame.work tokens.library + others := by
  obtain ⟨others, here, there⟩ := tokens.exists_frames
  refine ⟨(others.map (Frame.work tokens.library)).sum, ?_, ?_⟩
  · rw [work, here, List.map_cons, List.sum_cons]
  · intro frame
    rw [work, there, withCurrent_library, List.map_cons, List.sum_cons]

theorem work_enter (tokens : Tokens) (frame : Frame) :
    (tokens.enter frame).work = frame.work tokens.library + tokens.work := by
  simp [work, frames, enter]

theorem work_eq_of_inner {frame : Frame} {frames : List Frame}
    (nested : tokens.inner = frame :: frames) :
    tokens.work = frame.work tokens.library + work { tokens with inner := frames } := by
  simp [work, Tokens.frames, nested]

/-- Answers use up work for every step they take and for the token they give. -/
theorem Answers.work_le (answers : Answers steps tokens answer after) :
    steps + answer.toList.length + after.work ≤ tokens.work := by
  induction answers with
  | @delivered tokens _ rest moved =>
    obtain ⟨others, here, there⟩ := tokens.exists_work
    have less := Frame.work_of_deliver moved
    rw [here, there rest, Option.toList_some, List.length_singleton]
    omega
  | @entered tokens _ inner rest _ _ moved _ ih =>
    obtain ⟨others, here, there⟩ := tokens.exists_work
    have less := Frame.work_of_enter moved
    rw [work_enter, there rest, withCurrent_library] at ih
    omega
  | @stepped tokens _ rest _ _ moved _ ih =>
    obtain ⟨others, here, there⟩ := tokens.exists_work
    have less := Frame.work_of_work moved
    rw [there rest] at ih
    omega
  | @returned tokens _ frame _ _ _ _ nested _ ih =>
    rw [work_eq_of_inner nested]
    omega
  | finished => simp

theorem withCurrent_base {rest : Frame} (same : rest.base = tokens.current.base) :
    (tokens.withCurrent rest).outer.base = tokens.outer.base := by
  unfold withCurrent current at *
  cases inner : tokens.inner with
  | nil => simpa [inner] using same
  | cons => rfl

/-- The library and the budget of a stream do not change, and its text begins where it did. -/
theorem Answers.unchanged (answers : Answers steps tokens answer after) :
    after.library = tokens.library ∧ after.budget = tokens.budget ∧
      after.outer.base = tokens.outer.base := by
  induction answers with
  | delivered moved =>
    exact ⟨withCurrent_library _ _, withCurrent_budget _ _,
      withCurrent_base (Frame.base_of_deliver moved)⟩
  | entered moved _ ih =>
    have base := withCurrent_base (Frame.base_of_enter moved)
    simpa [enter, base] using ih
  | stepped moved _ ih =>
    have base := withCurrent_base (Frame.base_of_work moved)
    simpa [base] using ih
  | returned _ _ _ ih => exact ih
  | finished => exact ⟨rfl, rfl, rfl⟩

/-- A budget that covers the work that is left is enough to come to an answer. -/
theorem answers_nextWithin {moves : Nat} (funded : tokens.work ≤ moves) :
    ∃ steps, Answers steps tokens (nextWithin moves tokens).1 (nextWithin moves tokens).2 := by
  -- Every move leaves less work, so what is left still fits into the moves that are left.
  induction moves generalizing tokens with
  | zero =>
    have positive := tokens.work_pos
    omega
  | succ moves ih =>
    obtain ⟨others, here, there⟩ := tokens.exists_work
    unfold nextWithin
    split
    next token rest moved => exact ⟨0, .delivered moved⟩
    next rest moved =>
      have less := Frame.work_of_work moved
      obtain ⟨steps, answers⟩ := ih (by rw [there rest]; omega)
      exact ⟨steps + 1, .stepped moved answers⟩
    next inner rest moved =>
      have less := Frame.work_of_enter moved
      obtain ⟨steps, answers⟩ := @ih ((tokens.withCurrent rest).enter inner)
        (by rw [work_enter, there rest, withCurrent_library]; omega)
      exact ⟨steps, .entered moved answers⟩
    next moved =>
      split
      next outermost => exact ⟨0, .finished moved outermost⟩
      next frame frames nested =>
        have less := work_eq_of_inner nested
        have positive := Frame.work_pos tokens.library frame
        obtain ⟨steps, answers⟩ := @ih { tokens with inner := frames } (by omega)
        exact ⟨steps, .returned moved nested answers⟩

/-! ### Streams that can pay for their work -/

/-- The budget of a stream covers the work that is left. -/
def Funded (tokens : Tokens) : Prop := tokens.work ≤ tokens.budget

theorem funded_start (library : Library) (table : RuleTable) (text : List Char) (state : String) :
    Funded (start library table text state) := by
  have bound := Engine.workBound_eq_work library table text state
  simp only [Funded, work, frames, start, Frame.work, Frame.ofEngine, List.nil_append,
    List.map_cons, List.map_nil, List.sum_cons, List.sum_nil]
  omega

theorem Funded.answers_next (funded : tokens.Funded) :
    ∃ steps, Answers steps tokens tokens.next.1 tokens.next.2 :=
  answers_nextWithin funded

theorem Funded.next (funded : tokens.Funded) : tokens.next.2.Funded := by
  obtain ⟨steps, answers⟩ := funded.answers_next
  have less := answers.work_le
  unfold Funded at *
  rw [answers.unchanged.2.1]
  omega

/-! ### Several calls -/

/-- The stream after a number of calls. -/
def afterCalls : Nat → Tokens → Tokens
  | 0, tokens => tokens
  | calls + 1, tokens => (afterCalls calls tokens).next.2

theorem Funded.afterCalls (funded : tokens.Funded) (calls : Nat) :
    (tokens.afterCalls calls).Funded := by
  induction calls with
  | zero => exact funded
  | succ calls ih => exact ih.next

theorem Funded.unchanged (funded : tokens.Funded) (calls : Nat) :
    (tokens.afterCalls calls).library = tokens.library ∧
      (tokens.afterCalls calls).budget = tokens.budget ∧
        (tokens.afterCalls calls).outer.base = tokens.outer.base := by
  induction calls with
  | zero => exact ⟨rfl, rfl, rfl⟩
  | succ calls ih =>
    obtain ⟨steps, answers⟩ := (funded.afterCalls calls).answers_next
    obtain ⟨library, budget, base⟩ := answers.unchanged
    exact ⟨library.trans ih.1, budget.trans ih.2.1, base.trans ih.2.2⟩

theorem Funded.work_afterCalls_le (funded : tokens.Funded) (calls : Nat) :
    (tokens.afterCalls calls).work ≤ tokens.work := by
  induction calls with
  | zero => exact Nat.le_refl _
  | succ calls ih =>
    obtain ⟨steps, answers⟩ := (funded.afterCalls calls).answers_next
    have less := answers.work_le
    rw [Tokens.afterCalls]
    omega

/-- Calls that all give tokens use up work one by one. -/
theorem Funded.work_of_tokens (funded : tokens.Funded) {calls : Nat}
    (given : ∀ call < calls, (tokens.afterCalls call).next.1 ≠ none) :
    calls + (tokens.afterCalls calls).work ≤ tokens.work := by
  induction calls with
  | zero => simp [Tokens.afterCalls]
  | succ calls ih =>
    have earlier := ih fun call less => given call (by omega)
    obtain ⟨steps, answers⟩ := (funded.afterCalls calls).answers_next
    have less := answers.work_le
    obtain ⟨token, found⟩ := Option.ne_none_iff_exists'.mp (given calls (Nat.lt_succ_self _))
    rw [found, Option.toList_some, List.length_singleton] at less
    rw [Tokens.afterCalls]
    omega

/-- Some call gives no token, after fewer calls than there is work. -/
theorem Funded.exists_none (funded : tokens.Funded) :
    ∃ calls < tokens.work, (tokens.afterCalls calls).next.1 = none := by
  by_contra absent
  -- As many calls as there is work would all give tokens, and yet some work would be left.
  simp only [not_exists, not_and] at absent
  have bound := funded.work_of_tokens absent
  have positive := (tokens.afterCalls tokens.work).work_pos
  omega

end Tokens

end RuleLexer
