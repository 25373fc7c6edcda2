import RuleLexer.Proofs.Tokens.Answers

/-!
# What a stream still delivers

A stream delivers bit by bit what whole runs put out at once. What it holds can be written down with
whole runs: what is pending in the innermost frame and the rest of its engine's run, then the same
for the frame around it, and so on outwards; of the outermost frame only what is pending. As long as
something is held, a call takes the first token of it and the outer engine rests. Otherwise the
outer engine makes steps up to the first one that puts out a token, and no step after that.

## Main result

`Answers.served`: every answer comes from what is held or from the next steps of the outer engine.
-/
namespace RuleLexer

/-! ### Tokens to come -/

namespace Frame

variable {library : Library} {frame rest inner : Frame} {token : Token}

/-- The tokens that the pending items of a frame stand for. -/
def buffered (library : Library) (frame : Frame) : List Token :=
  (Item.tokens library frame.pending).map (Token.shift frame.base)

/-- The tokens that a frame delivers until it is drained. -/
def remaining (library : Library) (frame : Frame) : List Token :=
  frame.buffered library ++ (frame.engine.run library).1.map (Token.shift frame.base)

theorem buffered_of_pending (pending : frame.pending = []) : frame.buffered library = [] := by
  simp [buffered, pending, Item.tokens]

theorem remaining_ofEngine (base : Nat) (engine : Engine) :
    (ofEngine base engine).remaining library =
      (engine.run library).1.map (Token.shift base) := by
  simp [remaining, buffered, ofEngine, Item.tokens]

theorem buffered_of_deliver (moved : frame.move library = .deliver token rest) :
    frame.buffered library = token :: rest.buffered library := by
  obtain ⟨raw, items, pending, rfl, rfl⟩ := move_eq_deliver moved
  simp [buffered, pending, Item.tokens]

theorem buffered_of_enter (moved : frame.move library = .enter inner rest) :
    frame.buffered library = inner.remaining library ++ rest.buffered library := by
  obtain ⟨offset, engine, items, pending, rfl, rfl⟩ := move_eq_enter moved
  simp [remaining_ofEngine, buffered, pending, Item.tokens, Function.comp_def, Token.shift_shift]

/-- A step only makes explicit what the run of the engine begins with. -/
theorem remaining_of_work (moved : frame.move library = .work rest) :
    frame.remaining library = rest.remaining library := by
  obtain ⟨pending, nonempty, rfl⟩ := move_eq_work moved
  simp [remaining, buffered, pending, Item.tokens, Engine.run_of_nonempty nonempty]

theorem remaining_of_drained (moved : frame.move library = .drained) :
    frame.remaining library = [] := by
  obtain ⟨pending, drained⟩ := move_eq_drained moved
  simp [remaining, buffered_of_pending pending, Engine.run_of_drained drained]

end Frame

namespace Tokens

variable {tokens after : Tokens} {answer : Option Token} {steps : Nat}

/-- The tokens that a stream delivers before the outer engine has to make another step. -/
def buffered (tokens : Tokens) : List Token :=
  tokens.inner.flatMap (Frame.remaining tokens.library) ++ tokens.outer.buffered tokens.library

/-- The tokens that a stream delivers until it is drained. -/
def remaining (tokens : Tokens) : List Token :=
  tokens.buffered ++
    (tokens.outer.engine.run tokens.library).1.map (Token.shift tokens.outer.base)

theorem buffered_start (library : Library) (table : RuleTable) (text : List Char)
    (state : String) : (start library table text state).buffered = [] := by
  have nothing := @Frame.buffered_of_pending library (.ofEngine 0 (.start table text state 0)) rfl
  simp [buffered, start, nothing]

theorem remaining_start (library : Library) (table : RuleTable) (text : List Char)
    (state : String) :
    (start library table text state).remaining =
      ((Engine.start table text state 0).run library).1 := by
  rw [remaining, buffered_start]
  simp [start, Frame.ofEngine]

/-! ### Moves and what is buffered -/

/-- While a nested tokenization is under way, a move changes only what its frame still delivers. -/
theorem exists_buffered (nested : tokens.inner ≠ []) :
    ∃ others, tokens.buffered = tokens.current.remaining tokens.library ++ others ∧
      ∀ frame, (tokens.withCurrent frame).buffered = frame.remaining tokens.library ++ others ∧
        (tokens.withCurrent frame).outer = tokens.outer := by
  obtain ⟨first, rest, inner⟩ := List.exists_cons_of_ne_nil nested
  refine ⟨rest.flatMap (Frame.remaining tokens.library) ++ tokens.outer.buffered tokens.library,
    ?_, ?_⟩
  · simp [buffered, current, inner]
  · intro frame
    simp [buffered, withCurrent, inner]

/-- Otherwise a move changes what the outer frame holds. -/
theorem buffered_of_outermost (outermost : tokens.inner = []) :
    tokens.current = tokens.outer ∧ tokens.buffered = tokens.outer.buffered tokens.library ∧
      ∀ frame, (tokens.withCurrent frame).buffered = frame.buffered tokens.library ∧
        (tokens.withCurrent frame).outer = frame := by
  simp [buffered, current, withCurrent, outermost]

theorem buffered_of_deliver {token : Token} {rest : Frame}
    (moved : tokens.current.move tokens.library = .deliver token rest) :
    tokens.buffered = token :: (tokens.withCurrent rest).buffered ∧
      (tokens.withCurrent rest).outer.engine = tokens.outer.engine := by
  have taken := Frame.buffered_of_deliver moved
  obtain ⟨_, _, -, -, same⟩ := Frame.move_eq_deliver moved
  by_cases outermost : tokens.inner = []
  · obtain ⟨current, here, there⟩ := buffered_of_outermost outermost
    rw [(there rest).1, (there rest).2, here, same]
    rw [current] at taken
    exact ⟨by rwa [same] at taken, by rw [current]⟩
  · obtain ⟨others, here, there⟩ := exists_buffered outermost
    rw [(there rest).1, (there rest).2, here]
    subst same
    simp [Frame.remaining, taken]

theorem buffered_enter (tokens : Tokens) (frame : Frame) :
    (tokens.enter frame).buffered = frame.remaining tokens.library ++ tokens.buffered := by
  simp [buffered, enter]

theorem buffered_of_enter {inner rest : Frame}
    (moved : tokens.current.move tokens.library = .enter inner rest) :
    tokens.buffered = ((tokens.withCurrent rest).enter inner).buffered ∧
      (tokens.withCurrent rest).outer.engine = tokens.outer.engine := by
  have opened := Frame.buffered_of_enter moved
  obtain ⟨_, _, _, -, -, same⟩ := Frame.move_eq_enter moved
  rw [buffered_enter, withCurrent_library]
  by_cases outermost : tokens.inner = []
  · obtain ⟨current, here, there⟩ := buffered_of_outermost outermost
    rw [(there rest).1, (there rest).2, here]
    rw [current] at opened
    exact ⟨opened, by rw [same, current]⟩
  · obtain ⟨others, here, there⟩ := exists_buffered outermost
    rw [(there rest).1, (there rest).2, here]
    subst same
    simp [Frame.remaining, opened]

theorem buffered_of_returned {frame : Frame} {frames : List Frame}
    (moved : tokens.current.move tokens.library = .drained)
    (nested : tokens.inner = frame :: frames) :
    tokens.buffered = buffered { tokens with inner := frames } := by
  have current : tokens.current = frame := by simp [Tokens.current, nested]
  have empty := Frame.remaining_of_drained moved
  rw [current] at empty
  simp [buffered, nested, empty]

/-! ### Where answers come from -/

/-- Where a call takes its answer from: from what is held, or, if nothing is, from the first step of
the outer engine that puts out a token. There is no answer if no step does. -/
inductive Served (tokens : Tokens) : Option Token → Tokens → Prop
  | held {token : Token} {after : Tokens} (first : tokens.buffered = token :: after.buffered)
      (rests : after.outer.engine = tokens.outer.engine) : Served tokens (some token) after
  | made {token : Token} {after : Tokens} {count : Nat} {engine : Engine}
      (empty : tokens.buffered = [])
      (steps : Engine.Steps tokens.library count tokens.outer.engine engine)
      (silent : (tokens.outer.engine.run tokens.library).1 = (engine.run tokens.library).1)
      (nonempty : engine.after ≠ [])
      (first : (Item.tokens tokens.library (engine.step tokens.library).1).map
        (Token.shift tokens.outer.base) = token :: after.buffered)
      (rests : after.outer.engine = (engine.step tokens.library).2) :
      Served tokens (some token) after
  | exhausted {after : Tokens} {count : Nat} (empty : tokens.buffered = [])
      (steps : Engine.Steps tokens.library count tokens.outer.engine after.outer.engine)
      (silent : (tokens.outer.engine.run tokens.library).1 = [])
      (drained : after.outer.engine.after = []) (outermost : after.inner = [])
      (pending : after.outer.pending = []) : Served tokens none after

/-- What is served is not changed by a move that leaves the outer engine and what is held alone. -/
theorem Served.of_same {moved : Tokens} (served : Served moved answer after)
    (held : tokens.buffered = moved.buffered) (library : moved.library = tokens.library)
    (engine : moved.outer.engine = tokens.outer.engine)
    (base : moved.outer.base = tokens.outer.base) : Served tokens answer after := by
  cases served with
  | held first rests => exact .held (held.trans first) (rests.trans engine)
  | made empty steps silent nonempty first rests =>
    rw [library, engine] at steps silent
    rw [library, base] at first
    rw [library] at rests
    exact .made (held.trans empty) steps silent nonempty first rests
  | exhausted empty steps silent drained outermost pending =>
    rw [library, engine] at steps silent
    exact .exhausted (held.trans empty) steps silent drained outermost pending

/-- A step of the outer engine comes before what is served after it. Either the step has put out the
answer, or it has put out nothing at all. -/
theorem Served.of_step {moved : Tokens} (served : Served moved answer after)
    (empty : tokens.buffered = []) (nonempty : tokens.outer.engine.after ≠ [])
    (held : moved.buffered =
      (Item.tokens tokens.library (tokens.outer.engine.step tokens.library).1).map
        (Token.shift tokens.outer.base))
    (library : moved.library = tokens.library)
    (engine : moved.outer.engine = (tokens.outer.engine.step tokens.library).2)
    (base : moved.outer.base = tokens.outer.base) : Served tokens answer after := by
  have silence (nothing : moved.buffered = []) :
      (tokens.outer.engine.run tokens.library).1 =
        ((tokens.outer.engine.step tokens.library).2.run tokens.library).1 := by
    rw [held, List.map_eq_nil_iff] at nothing
    rw [Engine.run_of_nonempty nonempty, nothing, List.nil_append]
  cases served with
  | held first rests =>
    exact .made empty (.refl _) rfl nonempty (held.symm.trans first) (rests.trans engine)
  | made nothing steps silent left first rests =>
    rw [library, engine] at steps silent
    rw [library, base] at first
    rw [library] at rests
    exact .made empty (.step nonempty steps) ((silence nothing).trans silent) left first rests
  | exhausted nothing steps silent drained outermost pending =>
    rw [library, engine] at steps silent
    exact .exhausted empty (.step nonempty steps) ((silence nothing).trans silent) drained
      outermost pending

/-- Every answer comes from what is held or from the next steps of the outer engine. -/
theorem Answers.served (answers : Answers steps tokens answer after) :
    Served tokens answer after := by
  induction answers with
  | delivered moved =>
    obtain ⟨first, rests⟩ := buffered_of_deliver moved
    exact .held first rests
  | entered moved _ ih =>
    obtain ⟨held, engine⟩ := buffered_of_enter moved
    exact ih.of_same held (withCurrent_library _ _) engine
      (withCurrent_base (Frame.base_of_enter moved))
  | @stepped tokens after rest answer steps moved _ ih =>
    have base := withCurrent_base (Frame.base_of_work moved)
    by_cases outermost : tokens.inner = []
    -- A step of the outer engine is the only move that changes this engine.
    · obtain ⟨current, here, there⟩ := buffered_of_outermost outermost
      rw [current] at moved
      obtain ⟨pending, nonempty, same⟩ := Frame.move_eq_work moved
      have empty : tokens.buffered = [] := here.trans (Frame.buffered_of_pending pending)
      apply ih.of_step empty nonempty ?_ (withCurrent_library _ _) ?_ base
      · rw [(there rest).1, same, Frame.buffered]
      · rw [(there rest).2, same]
    · obtain ⟨others, here, there⟩ := exists_buffered outermost
      have held : tokens.buffered = (tokens.withCurrent rest).buffered := by
        rw [here, (there rest).1, Frame.remaining_of_work moved]
      exact ih.of_same held (withCurrent_library _ _) (by rw [(there rest).2]) base
  | returned moved nested _ ih => exact ih.of_same (buffered_of_returned moved nested) rfl rfl rfl
  | @finished tokens moved outermost =>
    obtain ⟨current, here, -⟩ := buffered_of_outermost outermost
    rw [current] at moved
    obtain ⟨pending, drained⟩ := Frame.move_eq_drained moved
    have empty : tokens.buffered = [] := here.trans (Frame.buffered_of_pending pending)
    exact .exhausted empty (.refl _) (by rw [Engine.run_of_drained drained]) drained outermost
      pending

end Tokens

end RuleLexer
