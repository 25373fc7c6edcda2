import Mathlib.Algebra.Order.BigOperators.Group.List
import RuleLexer.Proofs.Engine.Steps

/-!
# Whole runs

What an engine comes to if it is not asked for one token at a time: its steps are made one after the
other until no text is left, the tokens of each step follow those of the steps before it, and a
nested engine is run to its end where the step puts it. This needs neither frames nor a budget, so
it says what a stream has to deliver.

## Main results

* `run_induction`: what holds of an engine if it holds of the engine after its next step and of the
  engines that this step hands text to, holds of every engine.
* `run_spells`: the tokens of a run spell the text that was left when it began.
* `steps_run`: a run is a sequence of steps that ends where no text is left.
* `Steps.exists_earlier`: the tokens of a run that come of its first steps spell what these pass.
* `run_atDepth`: as long as nothing is handed on, the tokens do not depend on the depth.
-/
namespace RuleLexer

mutual

/-- All tokens of an engine in order, and the engine at the end of its text. -/
def Engine.run (library : Library) (engine : Engine) : List Token × Engine :=
  if engine.after = [] then ([], engine)
  else
    let rest := (engine.step library).2.run library
    (Item.tokens library (engine.step library).1 ++ rest.1, rest.2)
termination_by engine.work library
decreasing_by
  · exact Engine.work_step_lt ‹_›
  · have less := Engine.step_work library ‹_›
    omega

/-- The tokens of items in order. A nested engine contributes all of its tokens at once, moved to
where its text begins. -/
def Item.tokens (library : Library) : List Item → List Token
  | [] => []
  | .token token :: rest => token :: Item.tokens library rest
  | .nested offset engine :: rest =>
    (engine.run library).1.map (Token.shift offset) ++ Item.tokens library rest
termination_by items => (items.map (Item.work library)).sum
decreasing_by
  all_goals
    simp only [List.map_cons, List.sum_cons, Item.work]
    omega

end

/-- Where a token begins and where it ends. -/
def Token.span (token : Token) : Nat × Nat := (token.start, token.stop)

theorem Token.shift_shift (base offset : Nat) (token : Token) :
    (token.shift offset).shift base = token.shift (base + offset) := by
  simp only [shift, Token.mk.injEq, true_and]
  omega

@[simp] theorem Token.shift_zero : shift 0 = id := rfl

theorem Token.map_span_shift (offset : Nat) (tokens : List Token) :
    (tokens.map (shift offset)).map span =
      (tokens.map span).map fun extent => (extent.1 + offset, extent.2 + offset) := by
  simp [span, shift]

namespace Engine

open Text

variable {library : Library} {engine : Engine}

theorem run_of_drained (drained : engine.after = []) : engine.run library = ([], engine) := by
  rw [run, if_pos drained]

theorem run_of_nonempty (nonempty : engine.after ≠ []) :
    engine.run library =
      (Item.tokens library (engine.step library).1 ++ ((engine.step library).2.run library).1,
        ((engine.step library).2.run library).2) := by
  rw [run, if_neg nonempty]

/-- Induction along a whole run, which goes on from the engine after a step and from the engines that
the step hands text to. -/
theorem run_induction (library : Library) {motive : Engine → Prop}
    (drained : ∀ engine, engine.after = [] → motive engine)
    (stepped : ∀ engine, engine.after ≠ [] → motive (engine.step library).2 →
      (∀ offset inner, .nested offset inner ∈ (engine.step library).1 → motive inner) →
        motive engine)
    (engine : Engine) : motive engine := by
  induction hsize : engine.work library using Nat.strong_induction_on generalizing engine with
  | _ size ih =>
    by_cases left : engine.after = []
    · exact drained engine left
    · have less := step_work library left
      refine stepped engine left (ih _ (by omega) _ rfl) ?_
      intro offset inner handed
      have part : inner.work library + 1 ≤ ((engine.step library).1.map (Item.work library)).sum :=
        List.le_sum_of_mem (List.mem_map.mpr ⟨_, handed, rfl⟩)
      exact ih _ (by omega) _ rfl

/-- The tokens of a run follow one another from the cursor on and take up all the text that is left,
and so do the tokens of items in the text that the items cover. -/
private theorem run_and_items_spell (library : Library) :
    (∀ engine : Engine,
      Spells engine.cursor ((engine.run library).1.map Token.span) engine.after) ∧
    ∀ (items : List Item) (engine : Engine) (start : Nat) (chars : List Char),
      Covers library engine start items chars →
        Spells start ((Item.tokens library items).map Token.span) chars := by
  -- A run and the tokens of items are defined together, so the induction is on both at once.
  apply run.mutual_induct library
  · intro engine drained
    rw [run_of_drained drained, drained]
    exact .nil _
  · intro engine nonempty ihRest ihItems
    obtain ⟨front, passes, covers⟩ := step_passes library engine nonempty
    have first := ihItems engine _ _ covers
    rw [passes.cursor] at ihRest
    rw [run_of_nonempty nonempty, passes.after, List.map_append]
    exact first.append ihRest
  · intro engine start chars covers
    cases covers
    simpa [Item.tokens] using Spells.nil start
  · intro token rest ih engine start chars covers
    cases covers with
    | token kind nonempty tail =>
      rw [Item.tokens, List.map_cons]
      exact .cons nonempty (ih _ _ _ tail)
  · intro offset inner rest ihInner ihRest engine start chars covers
    cases covers with
    | nested state nonempty named allowed tail =>
      have moved := ihInner.shift offset
      rw [← Token.map_span_shift] at moved
      rw [Item.tokens, List.map_append]
      exact Spells.append (by simpa [Engine.start] using moved) (ihRest _ _ _ tail)

theorem run_spells (library : Library) (engine : Engine) :
    Spells engine.cursor ((engine.run library).1.map Token.span) engine.after :=
  (run_and_items_spell library).1 engine

theorem Covers.spells {start : Nat} {items : List Item} {chars : List Char}
    (covers : Covers library engine start items chars) :
    Spells start ((Item.tokens library items).map Token.span) chars :=
  (run_and_items_spell library).2 items engine start chars covers

theorem steps_run (library : Library) (engine : Engine) :
    (∃ count, Steps library count engine (engine.run library).2) ∧
      (engine.run library).2.after = [] := by
  induction engine using run_induction library with
  | drained engine drained =>
    rw [run_of_drained drained]
    exact ⟨⟨0, .refl _⟩, drained⟩
  | stepped engine nonempty ih _ =>
    obtain ⟨⟨count, steps⟩, final⟩ := ih
    rw [run_of_nonempty nonempty]
    exact ⟨⟨count + 1, .step nonempty steps⟩, final⟩

/-- Making some steps first does not change how a run ends. -/
theorem Steps.run_eq {count : Nat} {later : Engine} (steps : Steps library count engine later) :
    (later.run library).2 = (engine.run library).2 := by
  induction steps with
  | refl => rfl
  | step nonempty _ ih => rw [ih, run_of_nonempty nonempty]

/-- Some steps pass a front part of the text, and the tokens that a run puts out until then spell
just this part. -/
theorem Steps.exists_earlier {count : Nat} {later : Engine}
    (steps : Steps library count engine later) :
    ∃ front earlier, engine.after = front ++ later.after ∧
      later.before = front.reverse ++ engine.before ∧
      later.cursor = engine.cursor + byteLength front ∧
      (engine.run library).1 = earlier ++ (later.run library).1 ∧
      Spells engine.cursor (earlier.map Token.span) front := by
  induction steps with
  | refl engine => exact ⟨[], [], rfl, rfl, rfl, rfl, .nil _⟩
  | @step _ engine later nonempty _ ih =>
    obtain ⟨front, passes, covers⟩ := step_passes library engine nonempty
    obtain ⟨further, earlier, after, before, cursor, tokens, spelled⟩ := ih
    refine ⟨front ++ further, Item.tokens library (engine.step library).1 ++ earlier, ?_, ?_, ?_,
      ?_, ?_⟩
    · rw [passes.after, after, List.append_assoc]
    · rw [before, passes.before, List.reverse_append, List.append_assoc]
    · rw [cursor, passes.cursor, byteLength_append, Nat.add_assoc]
    · rw [run_of_nonempty nonempty, tokens, List.append_assoc]
    · rw [List.map_append]
      rw [passes.cursor] at spelled
      exact covers.spells.append spelled

/-! ### Rules that make one token -/

/-- The first rule that matches anything fires. -/
theorem firing?_of_rules {earlier later : List Rule} {rule : Rule} {found : Match}
    (rules : engine.rules = earlier ++ rule :: later)
    (silent : ∀ other ∈ earlier, other.pattern.matchHere? engine.before engine.after = none)
    (matched : rule.pattern.matchHere? engine.before engine.after = some found)
    (moves : 0 < found.stop) : engine.firing? = some (rule, found) := by
  have passed : earlier.findSome?
      (fun rule => (engine.match? rule).map fun found => (rule, found)) = none := by
    rw [List.findSome?_eq_none_iff]
    intro other member
    simp [match?, silent other member]
  rw [firing?, rules, List.findSome?_append, passed]
  simp [match?, matched, moves]

/-- If a rule that makes one token and stays in its state fires, its token comes before those of the
engine that stands behind the match. -/
theorem run_of_staying (library : Library) {pattern : Pattern} {kind : TokenKind} {found : Match}
    {front back : List Char} (fires : engine.firing? = some (⟨pattern, .token kind, .stay⟩, found))
    (split : engine.after = front ++ back) (size : byteLength front = found.stop)
    (moves : 0 < found.stop) :
    (engine.run library).1 = ⟨kind, engine.cursor, engine.cursor + found.stop⟩ ::
      (Engine.run library { engine with
        before := front.reverse ++ engine.before
        after := back
        cursor := engine.cursor + found.stop
        idle := 0 }).1 := by
  have cut : splitOnto engine.before engine.after found.stop =
      some (front.reverse ++ engine.before, back) :=
    splitOnto_eq_some_iff.mpr ⟨front, split, rfl, size⟩
  have nonempty : engine.after ≠ [] := by
    rw [split]
    rintro none
    rw [(List.append_eq_nil_iff.mp none).1] at size
    exact Nat.ne_of_lt moves size
  rw [run_of_nonempty nonempty]
  simp [step, fires, fire, move, cut, Part.ofMatch, Part.nonempty, moves, itemOf, tokenOver,
    StateStack.apply, Nat.ne_of_gt moves, Item.tokens]

/-- If no rule fires, the character at the cursor is given up, and its token comes before those of
the engine that stands behind it. -/
theorem run_of_silent (library : Library) {char : Char} {rest : List Char}
    (silent : engine.firing? = none) (split : engine.after = char :: rest) (other : char ≠ '\n') :
    (engine.run library).1 = ⟨.error, engine.cursor, engine.cursor + char.utf8Size⟩ ::
      (Engine.run library { engine with
        before := char :: engine.before
        after := rest
        cursor := engine.cursor + char.utf8Size
        idle := 0 }).1 := by
  have cut : splitOnto engine.before (char :: rest) char.utf8Size =
      some (char :: engine.before, rest) :=
    splitOnto_eq_some_iff.mpr ⟨[char], rfl, rfl, rfl⟩
  have nonempty : engine.after ≠ [] := by simp [split]
  rw [run_of_nonempty nonempty]
  simp [step, silent, recover, split, other, move, cut, tokenOver, char.utf8Size_pos.ne',
    Item.tokens]

/-! ### Depth -/

/-- The same engine, nested in another number of tokenizations. -/
def atDepth (depth : Nat) (engine : Engine) : Engine := { engine with depth }

theorem move_atDepth (depth count : Nat) :
    (engine.atDepth depth).move count = (engine.move count).atDepth depth := by
  unfold move atDepth
  dsimp only
  split <;> rfl

/-- No part of a match is handed on, if a rule fires at all. -/
def Quiet (engine : Engine) : Prop :=
  ∀ rule found, engine.firing? = some (rule, found) →
    ∀ part ∈ Part.ofMatch rule.action found, ∀ delegate, part.action ≠ .delegate delegate

/-- If nothing is handed on, a step does not depend on how deeply the engine is nested. -/
theorem step_atDepth (quiet : engine.Quiet) (depth : Nat) :
    (engine.atDepth depth).step library =
      ((engine.step library).1, (engine.step library).2.atDepth depth) := by
  have firing : (engine.atDepth depth).firing? = engine.firing? := rfl
  rw [step, step, firing]
  cases fires : engine.firing? with
  | none =>
    have after : (engine.atDepth depth).after = engine.after := rfl
    simp only [recover, move_atDepth, after]
    split
    · rfl
    · have table : (engine.atDepth depth).table = engine.table := rfl
      rw [table]
      split <;> rfl
  | some firing =>
    obtain ⟨rule, found⟩ := firing
    dsimp only [fire]
    rw [move_atDepth]
    refine Prod.ext (List.map_congr_left fun part member => ?_) rfl
    have kept := quiet rule found fires part member
    unfold itemOf
    split
    · rfl
    · rfl
    · next named => exact absurd named (kept _)

/-- If no step on the way hands anything on, the tokens of a run do not depend on how deeply the
engine is nested. -/
theorem run_atDepth (quiet : ∀ count later, Steps library count engine later → later.Quiet)
    (depth : Nat) : ((engine.atDepth depth).run library).1 = (engine.run library).1 := by
  induction engine using run_induction library with
  | drained engine drained =>
    have drainedDeep : (engine.atDepth depth).after = [] := drained
    rw [run_of_drained drained, run_of_drained drainedDeep]
  | stepped engine nonempty ih _ =>
    have nonemptyDeep : (engine.atDepth depth).after ≠ [] := nonempty
    rw [run_of_nonempty nonempty, run_of_nonempty nonemptyDeep,
      step_atDepth (quiet 0 engine (.refl _))]
    rw [ih fun count later steps => quiet (count + 1) later (.step nonempty steps)]

end Engine

end RuleLexer
