import RuleLexer.Proofs.Engine.Work

/-!
# Sequences of steps

An engine makes a step only while text is left. `Steps` counts the steps of one engine; `Reaches`
follows the nested engines as well, so it speaks of every engine that a tokenization brings about.

## Main results

* `Steps.count_le_of_cursor_eq`: no more than `idleLimit` steps leave the cursor at its place.
* `Steps.count_le_of_start`: a text is worth at most `idleLimit + 1` steps for each character.
* `Reaches.exists_delegate`: a nested engine runs over a part that a delegate is given.
* `Reaches.exists_allowing`: nesting goes no deeper than a table that is handed text allows.
* `Reaches.holds`: what has been checked along a whole run holds of every engine of it.
-/
namespace RuleLexer

namespace Engine

open Text

variable {library : Library} {engine later : Engine} {count : Nat}

/-- All of the text that an engine runs over. -/
def text (engine : Engine) : List Char := engine.before.reverse ++ engine.after

/-- The cursor counts the bytes before it. -/
def Aligned (engine : Engine) : Prop := engine.cursor = byteLength engine.before.reverse

theorem aligned_start (table : RuleTable) (text : List Char) (state : String) (depth : Nat) :
    (start table text state depth).Aligned := rfl

theorem Passes.text_eq {front : List Char} (passes : Passes engine front later) :
    later.text = engine.text := by
  simp [text, passes.before, passes.after]

theorem Passes.aligned {front : List Char} (passes : Passes engine front later)
    (aligned : engine.Aligned) : later.Aligned := by
  unfold Aligned at *
  rw [passes.cursor, passes.before, List.reverse_append, List.reverse_reverse, byteLength_append,
    aligned]

/-- A slice of the text after the cursor is a slice of the text. -/
theorem Aligned.slice? (aligned : engine.Aligned) {start stop : Nat} {piece : List Char}
    (sliced : slice? engine.after start stop = some piece) :
    slice? engine.text (engine.cursor + start) (engine.cursor + stop) = some piece := by
  obtain ⟨front, back, split, rfl, rfl⟩ := slice?_eq_some_iff.mp sliced
  refine slice?_eq_some_iff.mpr ⟨engine.before.reverse ++ front, back, ?_, ?_, by omega⟩
  · simp [text, split]
  · rw [byteLength_append, aligned]

/-- A number of steps, each of them made while text is left. -/
inductive Steps (library : Library) : Nat → Engine → Engine → Prop
  | refl (engine : Engine) : Steps library 0 engine engine
  | step {count : Nat} {engine later : Engine} (nonempty : engine.after ≠ [])
      (rest : Steps library count (engine.step library).2 later) :
      Steps library (count + 1) engine later

namespace Steps

theorem append {between : Engine} {further : Nat} (first : Steps library count engine between)
    (second : Steps library further between later) :
    Steps library (count + further) engine later := by
  induction first with
  | refl => simpa using second
  | step nonempty _ ih =>
    rw [Nat.succ_add]
    exact .step nonempty (ih second)

theorem snoc (steps : Steps library count engine later) (nonempty : later.after ≠ []) :
    Steps library (count + 1) engine (later.step library).2 :=
  steps.append (.step nonempty (.refl _))

/-- Of two sequences of steps the longer one goes through the end of the shorter one. -/
theorem exists_rest {further : Nat} {final : Engine} (first : Steps library count engine later)
    (second : Steps library further engine final) (le : count ≤ further) :
    Steps library (further - count) later final := by
  induction first generalizing further with
  | refl => exact second
  | @step count _ _ _ _ ih =>
    cases second with
    | refl => omega
    | @step further _ _ _ rest =>
      rw [Nat.add_sub_add_right]
      exact ih rest (by omega)

theorem text_eq (steps : Steps library count engine later) : later.text = engine.text := by
  induction steps with
  | refl => rfl
  | @step _ engine _ nonempty _ ih =>
    obtain ⟨front, passes, -⟩ := step_passes library engine nonempty
    rw [ih, passes.text_eq]

theorem aligned (steps : Steps library count engine later) (aligned : engine.Aligned) :
    later.Aligned := by
  induction steps with
  | refl => exact aligned
  | @step _ engine _ nonempty _ ih =>
    obtain ⟨front, passes, -⟩ := step_passes library engine nonempty
    exact ih (passes.aligned aligned)

theorem unchanged (steps : Steps library count engine later) :
    later.table = engine.table ∧ later.depth = engine.depth := by
  induction steps with
  | refl => exact ⟨rfl, rfl⟩
  | @step _ engine _ nonempty _ ih =>
    obtain ⟨front, passes, -⟩ := step_passes library engine nonempty
    exact ⟨ih.1.trans passes.table, ih.2.trans passes.depth⟩

theorem cursor_le (steps : Steps library count engine later) : engine.cursor ≤ later.cursor := by
  induction steps with
  | refl => exact Nat.le_refl _
  | @step _ engine _ nonempty _ ih =>
    obtain ⟨front, passes, -⟩ := step_passes library engine nonempty
    rw [passes.cursor] at ih
    omega

/-- Once a step has passed a place, no later step begins at it or before it. -/
theorem le_of_passed {further place : Nat} {final : Engine}
    (first : Steps library count engine later) (nonempty : later.after ≠ [])
    (second : Steps library further engine final) (lower : final.cursor ≤ place)
    (upper : place < (later.step library).2.cursor) : further ≤ count := by
  by_contra more
  have rest := (first.snoc nonempty).exists_rest second (by omega)
  have onward := rest.cursor_le
  omega

/-- There is only one step that passes a place. -/
theorem count_unique {further place : Nat} {final : Engine}
    (first : Steps library count engine later) (passing : later.after ≠ [])
    (second : Steps library further engine final) (passingAgain : final.after ≠ [])
    (lower : later.cursor ≤ place) (upper : place < (later.step library).2.cursor)
    (lowerAgain : final.cursor ≤ place) (upperAgain : place < (final.step library).2.cursor) :
    further = count :=
  Nat.le_antisymm (first.le_of_passed passing second lowerAgain upper)
    (second.le_of_passed passingAgain first lower upperAgain)

/-! ### Idle steps -/

/-- Steps that leave the cursor where it is are counted one by one. -/
theorem idle_of_cursor_eq (steps : Steps library count engine later)
    (still : later.cursor = engine.cursor) :
    later.idle = engine.idle + count ∧ (count = 0 ∨ later.idle ≤ idleLimit) := by
  induction steps with
  | refl => simp
  | @step count engine later nonempty rest ih =>
    obtain ⟨front, passes, -⟩ := step_passes library engine nonempty
    have onward := rest.cursor_le
    rcases passes.idle with ⟨rfl, allowed, idle⟩ | ⟨passed, -⟩
    · have cursor : (engine.step library).2.cursor = engine.cursor := by
        simp [passes.cursor, byteLength]
      obtain ⟨counted, bounded⟩ := ih (still.trans cursor.symm)
      exact ⟨by omega, by omega⟩
    · -- The cursor does not come back to a place that a step has passed.
      have positive := byteLength_pos passed
      rw [passes.cursor] at onward
      omega

theorem count_le_of_cursor_eq (steps : Steps library count engine later)
    (still : later.cursor = engine.cursor) : count ≤ idleLimit := by
  obtain ⟨counted, bounded⟩ := steps.idle_of_cursor_eq still
  omega

end Steps

/-- An engine has made no more idle steps than it may, and none at the end of its text. -/
structure Patient (engine : Engine) : Prop where
  idle_le : engine.idle ≤ idleLimit
  drained : engine.after = [] → engine.idle = 0

theorem patient_step (nonempty : engine.after ≠ []) : Patient (engine.step library).2 := by
  obtain ⟨front, passes, -⟩ := step_passes library engine nonempty
  rcases passes.idle with ⟨rfl, allowed, idle⟩ | ⟨-, idle⟩
  · refine ⟨by omega, ?_⟩
    intro drained
    exact absurd (by simpa [drained] using passes.after) nonempty
  · exact ⟨by omega, fun _ => idle⟩

/-- Every step is paid for: a character pays for the step that passes it and for the idle steps that
can come before this one. -/
theorem Steps.count_le (steps : Steps library count engine later) (patient : Patient engine) :
    Patient later ∧
      count + (idleLimit + 1) * later.after.length + engine.idle ≤
        (idleLimit + 1) * engine.after.length + later.idle := by
  induction steps with
  | refl => exact ⟨patient, by omega⟩
  | @step count engine later nonempty _ ih =>
    obtain ⟨patientLater, bound⟩ := ih (patient_step nonempty)
    refine ⟨patientLater, ?_⟩
    obtain ⟨front, passes, -⟩ := step_passes library engine nonempty
    have length := congrArg List.length passes.after
    rw [List.length_append] at length
    have allowed := patient.idle_le
    simp only [idleLimit] at *
    rcases passes.idle with ⟨rfl, -, idle⟩ | ⟨passed, idle⟩
    · simp only [List.length_nil] at length
      omega
    · have positive := List.length_pos_iff.mpr passed
      omega

theorem Steps.count_le_of_start {table : RuleTable} {text : List Char} {state : String}
    {depth : Nat} (steps : Steps library count (.start table text state depth) later) :
    count ≤ (idleLimit + 1) * text.length := by
  obtain ⟨patient, bound⟩ := steps.count_le ⟨Nat.zero_le _, fun _ => rfl⟩
  -- The idle steps at the last place are paid by the character that stands there.
  have idle : later.idle ≤ (idleLimit + 1) * later.after.length := by
    cases after : later.after with
    | nil => exact Nat.le_of_eq (patient.drained after)
    | cons char rest =>
      have := patient.idle_le
      simp only [List.length_cons, Nat.mul_add]
      omega
  simp only [start] at bound
  omega

/-! ### Nested engines -/

/-- An engine that a tokenization brings about: the one it begins with, one that has made a further
step, or one that a step hands text to. -/
inductive Reaches (library : Library) (origin : Engine) : Engine → Prop
  | origin : Reaches library origin origin
  | step {engine : Engine} (reached : Reaches library origin engine)
      (nonempty : engine.after ≠ []) : Reaches library origin (engine.step library).2
  | nested {engine inner : Engine} {offset : Nat} (reached : Reaches library origin engine)
      (nonempty : engine.after ≠ [])
      (handed : Item.nested offset inner ∈ (engine.step library).1) :
      Reaches library origin inner

theorem Covers.exists_start {start offset : Nat} {items : List Item} {chars : List Char}
    {inner : Engine} (covers : Covers library engine start items chars)
    (member : Item.nested offset inner ∈ items) :
    ∃ table piece state, piece ≠ [] ∧ table ∈ engine.table :: library ∧
      engine.depth < engine.table.options.run.maxDelegateDepth ∧
      inner = .start table piece state (engine.depth + 1) := by
  induction covers with
  | nil => cases member
  | token _ _ _ ih =>
    rcases List.mem_cons.mp member with same | member
    · cases same
    · exact ih member
  | @nested _ _ piece _ table state proper named allowed _ ih =>
    rcases List.mem_cons.mp member with same | member
    · cases same
      exact ⟨table, piece, state, proper, named, allowed, rfl⟩
    · exact ih member

/-- What a step hands on is run by a fresh engine, one level deeper. -/
theorem exists_start_of_nested {inner : Engine} {offset : Nat} (nonempty : engine.after ≠ [])
    (handed : Item.nested offset inner ∈ (engine.step library).1) :
    ∃ table piece state, piece ≠ [] ∧ table ∈ engine.table :: library ∧
      engine.depth < engine.table.options.run.maxDelegateDepth ∧
      inner = .start table piece state (engine.depth + 1) := by
  obtain ⟨front, -, covers⟩ := step_passes library engine nonempty
  exact covers.exists_start handed

theorem Reaches.aligned {origin : Engine} (reached : Reaches library origin engine)
    (aligned : origin.Aligned) : engine.Aligned := by
  induction reached with
  | origin => exact aligned
  | @step engine _ nonempty ih =>
    obtain ⟨front, passes, -⟩ := step_passes library engine nonempty
    exact passes.aligned ih
  | @nested engine _ _ _ nonempty handed _ =>
    obtain ⟨table, piece, state, -, -, -, rfl⟩ := exists_start_of_nested nonempty handed
    exact aligned_start _ _ _ _

/-- What a step hands on is a part of the match of the rule that fires. A nested engine is a fresh
one over the slice of the text that the part stands for, with the table and the state that the
delegate names, or else with the running table and the root. -/
theorem Reaches.exists_delegate {origin inner : Engine} {offset : Nat}
    (reached : Reaches library origin engine) (aligned : origin.Aligned)
    (nonempty : engine.after ≠ []) (handed : Item.nested offset inner ∈ (engine.step library).1) :
    ∃ rule found part delegate piece, engine.firing? = some (rule, found) ∧
      part ∈ Part.ofMatch rule.action found ∧ part.action = .delegate delegate ∧
      offset = engine.cursor + part.start ∧
      slice? engine.text offset (engine.cursor + part.stop) = some piece ∧ piece ≠ [] ∧
      engine.depth < engine.table.options.run.maxDelegateDepth ∧
      let running := (delegate.target.table? library engine.table).getD engine.table
      running ∈ engine.table :: library ∧
      inner = .start running piece
        ((delegate.state.filter running.hasState).getD RuleTable.rootName) (engine.depth + 1) := by
  obtain ⟨rule, found, part, delegate, fires, among, named, allowed, rfl, same⟩ :=
    exists_delegate_of_nested handed
  obtain ⟨table, piece, state, proper, -, -, fresh⟩ := exists_start_of_nested nonempty handed
  have text : engine.textOver part.start part.stop = piece :=
    congrArg Engine.after (same.symm.trans fresh)
  have sliced : slice? engine.after part.start part.stop = some piece := by
    cases cut : slice? engine.after part.start part.stop with
    | none => simp [textOver, cut, proper.symm] at text
    | some _ => simpa [textOver, cut] using text
  refine ⟨rule, found, part, delegate, piece, fires, among, named, rfl,
    (reached.aligned aligned).slice? sliced, proper, allowed,
    delegate_table_mem library delegate.target, ?_⟩
  rw [same, delegated, text]

/-- A nested engine has come about from an engine whose table allows its depth. -/
theorem Reaches.exists_allowing {origin : Engine} (reached : Reaches library origin engine)
    (outermost : origin.depth = 0) :
    ∃ outer, Reaches library origin outer ∧
      engine.depth ≤ outer.table.options.run.maxDelegateDepth := by
  induction reached with
  | origin => exact ⟨origin, .origin, by omega⟩
  | @step engine _ nonempty ih =>
    obtain ⟨front, passes, -⟩ := step_passes library engine nonempty
    rwa [passes.depth]
  | @nested engine inner offset reached nonempty handed _ =>
    obtain ⟨_, _, _, -, -, allowed, rfl⟩ := exists_start_of_nested nonempty handed
    exact ⟨engine, reached, allowed⟩

theorem Reaches.table_mem {origin : Engine} (reached : Reaches library origin engine) :
    engine.table ∈ origin.table :: library := by
  induction reached with
  | origin => exact List.mem_cons_self
  | step _ _ ih => rwa [table_step]
  | @nested engine inner offset _ nonempty handed ih =>
    obtain ⟨_, _, _, -, named, -, rfl⟩ := exists_start_of_nested nonempty handed
    rcases List.mem_cons.mp named with rfl | named
    · exact ih
    · exact List.mem_cons_of_mem _ named

theorem Reaches.depth_le {table : RuleTable} {text : List Char} {state : String}
    (reached : Reaches library (.start table text state 0) engine) :
    engine.depth ≤ Tokens.deepest library table := by
  obtain ⟨outer, there, allowed⟩ := reached.exists_allowing rfl
  exact Nat.le_trans allowed (Tokens.deepest_le_iff.mp (Nat.le_refl _) _ there.table_mem)

/-! ### Checks along a run -/

/-- Whether a property holds of an engine and of all engines that come about from it, as long as
text is left to them. Only so many steps and levels are looked at; what lies further on is taken not
to have the property. -/
def holdsWithin (library : Library) (property : Engine → Bool) : Nat → Engine → Bool
  | 0, _ => false
  | reach + 1, engine =>
    engine.after.isEmpty ||
      (property engine && holdsWithin library property reach (engine.step library).2 &&
        (engine.step library).1.all fun
          | .token _ => true
          | .nested _ inner => holdsWithin library property reach inner)

theorem holdsWithin_succ {property : Engine → Bool} {reach : Nat}
    (holds : engine.holdsWithin library property (reach + 1)) (nonempty : engine.after ≠ []) :
    property engine ∧ (engine.step library).2.holdsWithin library property reach ∧
      ∀ offset inner, .nested offset inner ∈ (engine.step library).1 →
        inner.holdsWithin library property reach := by
  have left : engine.after.isEmpty = false := by simpa using nonempty
  rw [holdsWithin, left, Bool.false_or, Bool.and_eq_true, Bool.and_eq_true, List.all_eq_true]
    at holds
  exact ⟨holds.1.1, holds.1.2, fun offset inner handed => holds.2 _ handed⟩

theorem Reaches.holds {origin : Engine} {property : Engine → Bool} {reach : Nat}
    (reached : Reaches library origin engine) (holds : origin.holdsWithin library property reach)
    (nonempty : engine.after ≠ []) : property engine := by
  -- Every engine on the way has been looked at, each of them with less reach than the one before.
  have looked : ∃ reach, engine.holdsWithin library property reach := by
    clear nonempty
    induction reached with
    | origin => exact ⟨reach, holds⟩
    | step _ left ih =>
      obtain ⟨_ | reach, holds⟩ := ih
      · cases holds
      · exact ⟨reach, (holdsWithin_succ holds left).2.1⟩
    | nested _ left handed ih =>
      obtain ⟨_ | reach, holds⟩ := ih
      · cases holds
      · exact ⟨reach, (holdsWithin_succ holds left).2.2 _ _ handed⟩
  obtain ⟨_ | reach, holds⟩ := looked
  · cases holds
  · exact (holdsWithin_succ holds nonempty).1

end Engine

end RuleLexer
