import RuleLexer.Proofs.Tokens.Answers

/-!
# Termination

Whatever cycle of transitions and delegates a table contains, a call for a token takes finitely many
steps, and finitely many calls drain a stream. Three bounds say why: the idle steps of an engine at
one place, the steps of an engine over a text, and the depth of nesting.
-/
namespace RuleLexer

open Engine

/-- The engine of a frame and those it is about to enter have come about in a tokenization. -/
def Frame.Reached (library : Library) (origin : Engine) (frame : Frame) : Prop :=
  Reaches library origin frame.engine ∧
    ∀ offset inner, Item.nested offset inner ∈ frame.pending → Reaches library origin inner

namespace Frame

variable {library : Library} {origin : Engine} {frame rest inner : Frame} {token : Token}

theorem Reached.deliver (reached : frame.Reached library origin)
    (moved : frame.move library = .deliver token rest) : rest.Reached library origin := by
  obtain ⟨raw, items, pending, -, rfl⟩ := move_eq_deliver moved
  refine ⟨reached.1, ?_⟩
  intro offset inner member
  exact reached.2 offset inner (pending ▸ List.mem_cons_of_mem _ member)

theorem Reached.enter (reached : frame.Reached library origin)
    (moved : frame.move library = .enter inner rest) :
    inner.Reached library origin ∧ rest.Reached library origin := by
  obtain ⟨offset, engine, items, pending, rfl, rfl⟩ := move_eq_enter moved
  refine ⟨⟨reached.2 offset engine (pending ▸ List.mem_cons_self), ?_⟩, reached.1, ?_⟩
  · intro _ _ member
    cases member
  · intro offset inner member
    exact reached.2 offset inner (pending ▸ List.mem_cons_of_mem _ member)

theorem Reached.work (reached : frame.Reached library origin)
    (moved : frame.move library = .work rest) : rest.Reached library origin := by
  obtain ⟨-, nonempty, rfl⟩ := move_eq_work moved
  exact ⟨reached.1.step nonempty, fun _ _ member => reached.1.nested nonempty member⟩

end Frame

namespace Tokens

variable {tokens after : Tokens} {answer : Option Token} {steps : Nat} {origin : Engine}

/-- All engines of a stream have come about in one tokenization. -/
def Reached (origin : Engine) (tokens : Tokens) : Prop :=
  ∀ frame ∈ tokens.frames, frame.Reached tokens.library origin

theorem reached_start (library : Library) (table : RuleTable) (text : List Char)
    (state : String) : (start library table text state).Reached (.start table text state 0) := by
  intro frame member
  cases List.mem_singleton.mp member
  exact ⟨.origin, fun _ _ member => nomatch member⟩

/-- To replace the innermost frame by one whose engines have come about is enough. -/
theorem Reached.withCurrent (reached : tokens.Reached origin) {frame : Frame}
    (moved : tokens.current.Reached tokens.library origin → frame.Reached tokens.library origin) :
    (tokens.withCurrent frame).Reached origin := by
  obtain ⟨others, here, there⟩ := tokens.exists_frames
  unfold Reached at *
  rw [here, List.forall_mem_cons] at reached
  rw [there frame, List.forall_mem_cons, withCurrent_library]
  exact ⟨moved reached.1, reached.2⟩

theorem Reached.current (reached : tokens.Reached origin) :
    tokens.current.Reached tokens.library origin := by
  obtain ⟨others, here, -⟩ := tokens.exists_frames
  exact reached _ (here ▸ List.mem_cons_self)

theorem Answers.reached (answers : Answers steps tokens answer after)
    (reached : tokens.Reached origin) : after.Reached origin := by
  induction answers with
  | delivered moved => exact reached.withCurrent fun current => current.deliver moved
  | @entered tokens _ inner rest _ _ moved _ ih =>
    apply ih
    have around : (tokens.withCurrent rest).Reached origin :=
      reached.withCurrent fun current => (current.enter moved).2
    change ∀ frame ∈ inner :: (tokens.withCurrent rest).frames,
      frame.Reached (tokens.withCurrent rest).library origin
    refine List.forall_mem_cons.mpr ⟨?_, around⟩
    rw [withCurrent_library]
    exact (reached.current.enter moved).1
  | stepped moved _ ih => exact ih (reached.withCurrent fun current => current.work moved)
  | returned _ nested _ ih =>
    apply ih
    intro frame member
    apply reached frame
    rw [frames, nested]
    exact List.mem_cons_of_mem _ member
  | finished => exact reached

theorem Funded.reached_afterCalls (funded : tokens.Funded) (reached : tokens.Reached origin)
    (calls : Nat) : (tokens.afterCalls calls).Reached origin := by
  induction calls with
  | zero => exact reached
  | succ calls ih =>
    obtain ⟨steps, answers⟩ := (funded.afterCalls calls).answers_next
    exact answers.reached ih

/-- After any number of calls, the engines that a stream holds have come about in its tokenization. -/
theorem reaches_of_mem_frames {library : Library} {table : RuleTable} {text : List Char}
    {state : String} {calls : Nat} {frame : Frame}
    (member : frame ∈ ((table.tokenizeFrom library text state).afterCalls calls).frames) :
    Reaches library (.start table text state 0) frame.engine := by
  have funded := funded_start library table text state
  have reached := funded.reached_afterCalls (reached_start library table text state) calls
  have same : ((table.tokenizeFrom library text state).afterCalls calls).library = library :=
    (funded.unchanged calls).1
  exact same ▸ (reached frame member).1

end Tokens

namespace Engine

/-- An engine that has come about is a number of steps past the beginning of some text, on the same
level, and has come about from there. -/
theorem Reaches.exists_start {library : Library} {table : RuleTable} {text : List Char}
    {state : String} {engine : Engine}
    (reached : Reaches library (.start table text state 0) engine) :
    ∃ running part initial,
      Reaches library (.start table text state 0) (.start running part initial engine.depth) ∧
        ∃ count, Steps library count (.start running part initial engine.depth) engine := by
  induction reached with
  | origin => exact ⟨table, text, state, .origin, 0, .refl _⟩
  | @step engine _ nonempty ih =>
    obtain ⟨running, part, initial, begun, count, steps⟩ := ih
    obtain ⟨front, passes, -⟩ := step_passes library engine nonempty
    rw [passes.depth]
    exact ⟨running, part, initial, begun, count + 1, steps.snoc nonempty⟩
  | @nested engine inner offset reached nonempty handed _ =>
    obtain ⟨running, part, initial, -, -, -, rfl⟩ := exists_start_of_nested nonempty handed
    exact ⟨running, part, initial, reached.nested nonempty handed, 0, .refl _⟩

end Engine

/-- **Termination.** Every call for a token comes to its answer after a bounded number of steps, and
some call gives none. Every engine on the way began over some text of its own, at a depth that the
table of an engine on the way allows, and no table allows more than `Tokens.deepest`. From this
beginning it makes no more than `idleLimit + 1` steps for each character of its text, and at no
place more than `idleLimit` steps that pass nothing. -/
theorem tokenizeFrom_terminates (library : Library) (table : RuleTable) (text : List Char)
    (state : String) :
    let stream := table.tokenizeFrom library text state
    (∀ calls, ∃ steps ≤ Tokens.workBound library table text,
      Tokens.Answers steps (stream.afterCalls calls) (stream.afterCalls calls).next.1
        (stream.afterCalls (calls + 1))) ∧
    (∃ calls, (stream.afterCalls calls).next.1 = none) ∧
    (∀ calls, (stream.afterCalls calls).Reached (.start table text state 0)) ∧
    ∀ engine, Reaches library (.start table text state 0) engine →
      engine.depth ≤ Tokens.deepest library table ∧
      (∃ outer, Reaches library (.start table text state 0) outer ∧
        engine.depth ≤ outer.table.options.run.maxDelegateDepth) ∧
      (∃ running part initial,
        Reaches library (.start table text state 0) (.start running part initial engine.depth) ∧
        (∃ count, Steps library count (.start running part initial engine.depth) engine) ∧
        ∀ count later, Steps library count (.start running part initial engine.depth) later →
          count ≤ (idleLimit + 1) * part.length) ∧
      ∀ count later, Steps library count engine later → later.cursor = engine.cursor →
        count ≤ idleLimit := by
  intro stream
  have funded : stream.Funded := Tokens.funded_start library table text state
  refine ⟨?_, ?_, ?_, ?_⟩
  · intro calls
    obtain ⟨steps, answers⟩ := (funded.afterCalls calls).answers_next
    have less := answers.work_le
    have left := funded.work_afterCalls_le calls
    have bound : stream.work ≤ Tokens.workBound library table text := funded
    exact ⟨steps, by omega, answers⟩
  · obtain ⟨calls, -, given⟩ := funded.exists_none
    exact ⟨calls, given⟩
  · exact funded.reached_afterCalls (Tokens.reached_start library table text state)
  · intro engine reached
    obtain ⟨running, part, initial, begun, steps⟩ := reached.exists_start
    refine ⟨reached.depth_le, reached.exists_allowing rfl,
      ⟨running, part, initial, begun, steps, ?_⟩, ?_⟩
    · intro count later further
      exact further.count_le_of_start
    · intro count later further still
      exact further.count_le_of_cursor_eq still

end RuleLexer
