import RuleLexer.Proofs.Tokens.Delivery

/-!
# Laziness

Whoever stops asking for tokens finds the outer engine where the last token has left it: right after
the step that put this token out. What the stream holds then is the end of what this step put out,
so the engine makes its next step only when all of it has been delivered. The invariant behind this
is `Resting`; a call that takes from what is held keeps the step, and a call that has to make steps
stops at the first one that puts out a token.

## Main result

`tokenizeFrom_lazy`: after every call that gives a token the outer engine rests right after the step
that passed this token, and what is held covers the rest of what the step passed.
-/
namespace RuleLexer

open Engine Text

namespace Tokens

variable {tokens after : Tokens} {answer : Option Token} {token : Token} {steps count : Nat}
  {origin engine : Engine} {given : List Token}

/-- The outer engine rests right after a step, and what has been given and what is held is what this
step put out. -/
structure RestsAfter (origin : Engine) (tokens : Tokens) (count : Nat) (engine : Engine)
    (given : List Token) : Prop where
  steps : Steps tokens.library count origin engine
  nonempty : engine.after ≠ []
  rests : tokens.outer.engine = (engine.step tokens.library).2
  items : Item.tokens tokens.library (engine.step tokens.library).1 = given ++ tokens.buffered

/-- What is held, if anything, is the end of what the last step of the outer engine put out. -/
inductive Resting (origin : Engine) (tokens : Tokens) : Prop
  | empty {count : Nat} (empty : tokens.buffered = [])
      (steps : Steps tokens.library count origin tokens.outer.engine)
  | after {count : Nat} {engine : Engine} {given : List Token}
      (rests : RestsAfter origin tokens count engine given)

theorem resting_start (library : Library) (table : RuleTable) (text : List Char)
    (state : String) : (start library table text state).Resting (.start table text state 0) :=
  .empty (buffered_start library table text state) (.refl _)

theorem Resting.exists_steps (resting : tokens.Resting origin) :
    ∃ count, Steps tokens.library count origin tokens.outer.engine := by
  cases resting with
  | @empty count _ steps => exact ⟨count, steps⟩
  | @after count engine given rests =>
    rw [rests.rests]
    exact ⟨count + 1, rests.steps.snoc rests.nonempty⟩

/-- A call that gives a token leaves the outer engine right after the step that put it out. -/
theorem Resting.exists_rests (resting : tokens.Resting origin)
    (served : Served tokens (some token) after) (library : after.library = tokens.library)
    (base : tokens.outer.base = 0) :
    ∃ count engine given, after.RestsAfter origin count engine (given ++ [token]) := by
  cases served with
  -- What was held is now one token shorter, and the step that it comes from is the same.
  | held first rests =>
    cases resting with
    | empty empty => rw [empty] at first; cases first
    | @after count engine given last =>
      refine ⟨count, engine, given, ?_, last.nonempty, ?_, ?_⟩
      · rw [library]
        exact last.steps
      · rw [rests, library, last.rests]
      · rw [library, last.items, first, List.append_assoc]
        rfl
  -- The steps before the last one have put out nothing, so all that is held comes from this one.
  | @made _ _ further engine empty steps silent nonempty first rests =>
    obtain ⟨count, earlier⟩ := resting.exists_steps
    rw [base, Token.shift_zero, List.map_id] at first
    refine ⟨count + further, engine, [], ?_, nonempty, ?_, ?_⟩
    · rw [library]
      exact earlier.append steps
    · rw [library, rests]
    · rw [library, first]
      rfl

/-- A call keeps the invariant, whatever it answers. -/
theorem Resting.served (resting : tokens.Resting origin) (served : Served tokens answer after)
    (library : after.library = tokens.library) (base : tokens.outer.base = 0) :
    after.Resting origin := by
  cases answer with
  | some token =>
    obtain ⟨count, engine, given, rests⟩ := resting.exists_rests served library base
    exact .after rests
  | none =>
    have drained := served.drained
    cases served with
    | @exhausted _ further _ steps =>
      obtain ⟨count, earlier⟩ := resting.exists_steps
      have later : Steps after.library (count + further) origin after.outer.engine := by
        rw [library]
        exact earlier.append steps
      exact .empty drained.buffered_eq later

theorem Funded.resting_afterCalls (funded : tokens.Funded) (resting : tokens.Resting origin)
    (base : tokens.outer.base = 0) (calls : Nat) : (tokens.afterCalls calls).Resting origin := by
  induction calls with
  | zero => exact resting
  | succ calls ih =>
    obtain ⟨steps, answers⟩ := (funded.afterCalls calls).answers_next
    exact ih.served answers.served answers.unchanged.1 ((funded.unchanged calls).2.2.trans base)

/-- The last token given lies within what the step passed, and what is held tiles the rest of it. -/
theorem RestsAfter.tiles (rests : after.RestsAfter origin count engine (given ++ [token]))
    (aligned : origin.Aligned) :
    engine.cursor ≤ token.start ∧ token.start < token.stop ∧ token.stop ≤ after.cursor ∧
      Tiles origin.text token.stop (after.buffered.map Token.span) after.cursor := by
  obtain ⟨passed, passes, covers⟩ := step_passes after.library engine rests.nonempty
  have spelled := covers.spells
  rw [rests.items, List.append_assoc, List.map_append] at spelled
  obtain ⟨front, back, rfl, -, spelled⟩ := spelled.drop
  rw [List.singleton_append, List.map_cons] at spelled
  generalize extent : token.span = span at spelled
  cases spelled with
  | @cons _ _ piece rest proper tail =>
    obtain ⟨starts, stops⟩ := Prod.mk.inj extent
    have positive := byteLength_pos proper
    have cursor : after.cursor = token.stop + byteLength rest := by
      rw [Tokens.cursor, rests.rests, passes.cursor]
      simp only [byteLength_append]
      omega
    have within : origin.text = (engine.before.reverse ++ (front ++ piece)) ++
        (rest ++ (engine.step after.library).2.after) := by
      rw [← rests.steps.text_eq]
      simp [Engine.text, passes.after]
    have reached : byteLength (engine.before.reverse ++ (front ++ piece)) =
        engine.cursor + byteLength front + byteLength piece := by
      rw [byteLength_append, byteLength_append, ← rests.steps.aligned aligned, Nat.add_assoc]
    refine ⟨by omega, by omega, by omega, ?_⟩
    rw [cursor, stops]
    exact tail.tiles within reached

/-- No other step passes the last token given. -/
theorem RestsAfter.count_unique (rests : after.RestsAfter origin count engine (given ++ [token]))
    (aligned : origin.Aligned) {further : Nat} {other : Engine}
    (steps : Steps after.library further origin other) (nonempty : other.after ≠ [])
    (lower : other.cursor ≤ token.start)
    (upper : token.stop ≤ (other.step after.library).2.cursor) : further = count := by
  obtain ⟨starts, proper, stops, -⟩ := rests.tiles aligned
  rw [Tokens.cursor, rests.rests] at stops
  exact rests.steps.count_unique rests.nonempty steps nonempty starts
    (Nat.lt_of_lt_of_le proper stops) lower (Nat.lt_of_lt_of_le proper upper)

end Tokens

/-- **Laziness.** After a call that gives a token, the outer engine, with its cursor and its stack, is
as the one step that passed this token has left it. No step has been made since, and what the stream
holds, written out in full, tiles the text from the end of the token to the cursor. A call that
gives no token leaves the cursor at the end of the text and nothing pending, and no later call gives
a token or changes the cursor or the stack. -/
theorem tokenizeFrom_lazy (library : Library) (table : RuleTable) (text : List Char)
    (state : String) :
    let stream := table.tokenizeFrom library text state
    let origin := Engine.start table text state 0
    ∀ calls,
      let answer := (stream.afterCalls calls).next.1
      let after := stream.afterCalls (calls + 1)
      (∀ token, answer = some token →
        ∃ count engine, Steps library count origin engine ∧ engine.after ≠ [] ∧
          after.outer.engine = (engine.step library).2 ∧
          engine.cursor ≤ token.start ∧ token.start < token.stop ∧ token.stop ≤ after.cursor ∧
          (∀ further other, Steps library further origin other → other.after ≠ [] →
            other.cursor ≤ token.start → token.stop ≤ (other.step library).2.cursor →
            further = count) ∧
          Tiles text token.stop (after.buffered.map Token.span) after.cursor) ∧
      (answer = none →
        after.cursor = byteLength text ∧ after.inner = [] ∧ after.outer.pending = [] ∧
        ∀ further, (after.afterCalls further).next.1 = none ∧
          (after.afterCalls further).cursor = after.cursor ∧
          (after.afterCalls further).stateStack = after.stateStack) := by
  intro stream origin calls answer after
  have funded : stream.Funded := Tokens.funded_start library table text state
  have aligned : origin.Aligned := aligned_start table text state 0
  have wholeText : origin.text = text := rfl
  have resting := funded.resting_afterCalls (Tokens.resting_start library table text state) rfl
  obtain ⟨steps, answers⟩ := (funded.afterCalls calls).answers_next
  have served : Tokens.Served (stream.afterCalls calls) answer after := answers.served
  have same : (stream.afterCalls calls).library = library := (funded.unchanged calls).1
  have sameAfter : after.library = library := (funded.unchanged (calls + 1)).1
  constructor
  · intro token given
    rw [given] at served
    obtain ⟨count, engine, earlier, rests⟩ :=
      (resting calls).exists_rests served (sameAfter.trans same.symm) (funded.unchanged calls).2.2
    obtain ⟨starts, proper, stops, tiles⟩ := rests.tiles aligned
    have once := @Tokens.RestsAfter.count_unique _ _ _ _ _ _ rests aligned
    have taken := rests.steps
    have made := rests.rests
    rw [sameAfter] at once taken made
    rw [wholeText] at tiles
    exact ⟨count, engine, taken, rests.nonempty, made, starts, proper, stops,
      fun _ _ steps left lower upper => once steps left lower upper, tiles⟩
  · intro nothing
    rw [nothing] at served
    have drained := served.drained
    refine ⟨?_, drained.inner, drained.pending, ?_⟩
    · obtain ⟨count, taken⟩ := (resting (calls + 1)).exists_steps
      have ended := taken.text_eq
      rw [Engine.text, drained.after, List.append_nil, wholeText] at ended
      rw [Tokens.cursor, taken.aligned aligned, ended]
    · intro further
      rw [drained.afterCalls further, drained.next]
      exact ⟨rfl, rfl, rfl⟩

end RuleLexer
