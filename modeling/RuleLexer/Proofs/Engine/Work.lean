import Mathlib.Tactic.Ring
import RuleLexer.Engine.Tokens
import RuleLexer.Proofs.Engine.Step

/-!
# The work that is left

No single quantity falls with every step: the cursor may stand still while the stack changes, and a
nested engine may be given all of the text that is left. What falls is a sum. Each character that is
left pays `movesPerChar` for each level that nesting can still go down, and the idle steps that are
left pay for themselves. A step that passes characters frees what they paid on its own level, which
is more than a fresh supply of idle steps and the start of every nested engine cost.

## Main result

`step_work`: what a step puts out and the engine after it together have less work left than the
engine before it.
-/
namespace RuleLexer

/-! ### Levels of nesting -/

namespace Tokens

theorem deepest_le_iff {library : Library} {table : RuleTable} {limit : Nat} :
    deepest library table ≤ limit ↔
      ∀ entry ∈ table :: library, entry.options.run.maxDelegateDepth ≤ limit := by
  have foldl_max_le_iff (depths : List Nat) (first : Nat) :
      depths.foldl max first ≤ limit ↔ first ≤ limit ∧ ∀ depth ∈ depths, depth ≤ limit := by
    induction depths generalizing first with
    | nil => simp
    | cons depth rest ih => simp [ih, and_assoc]
  simp [deepest, foldl_max_le_iff]

theorem maxDelegateDepth_le_deepest (library : Library) (table : RuleTable) :
    table.options.run.maxDelegateDepth ≤ deepest library table :=
  deepest_le_iff.mp (Nat.le_refl _) table List.mem_cons_self

/-- A table that a delegate can name leads to no deeper levels. -/
theorem deepest_le_of_mem {library : Library} {table named : RuleTable}
    (member : named ∈ table :: library) : deepest library named ≤ deepest library table := by
  have bound := deepest_le_iff.mp (Nat.le_refl (deepest library table))
  apply deepest_le_iff.mpr
  intro entry hentry
  rcases List.mem_cons.mp hentry with rfl | hentry
  · exact bound _ member
  · exact bound _ (List.mem_cons_of_mem _ hentry)

end Tokens

/-! ### Bounds on the moves to come -/

/-- The levels that nesting can still go down from an engine. -/
def Engine.levels (library : Library) (engine : Engine) : Nat :=
  Tokens.deepest library engine.table - engine.depth

/-- A bound on the moves that it takes to drain an engine. -/
def Engine.work (library : Library) (engine : Engine) : Nat :=
  engine.after.length * Tokens.movesPerChar * (engine.levels library + 1) +
    (Engine.idleLimit - engine.idle) + 1

/-- A bound on the moves that it takes to deliver an item. -/
def Item.work (library : Library) : Item → Nat
  | .token _ => 1
  | .nested _ engine => engine.work library + 1

namespace Engine

variable {library : Library} {engine : Engine}

theorem work_pos (library : Library) (engine : Engine) : 0 < engine.work library :=
  Nat.succ_pos _

theorem workBound_eq_work (library : Library) (table : RuleTable) (text : List Char)
    (state : String) :
    Tokens.workBound library table text = (Engine.start table text state 0).work library := rfl

/-- A nested engine is one level deeper. -/
theorem levels_start_lt {table : RuleTable} (text : List Char) (state : String)
    (named : table ∈ engine.table :: library)
    (allowed : engine.depth < engine.table.options.run.maxDelegateDepth) :
    (Engine.start table text state (engine.depth + 1)).levels library < engine.levels library := by
  have deeper := Tokens.maxDelegateDepth_le_deepest library engine.table
  have bounded := Tokens.deepest_le_of_mem named
  simp only [levels, start]
  omega

/-- What a fresh engine costs is paid by the characters of its text, on the levels below. -/
theorem work_start_lt {table : RuleTable} {text : List Char} (state : String)
    (nonempty : text ≠ []) (named : table ∈ engine.table :: library)
    (allowed : engine.depth < engine.table.options.run.maxDelegateDepth) :
    (Engine.start table text state (engine.depth + 1)).work library <
      text.length * (Tokens.movesPerChar * engine.levels library + idleLimit + 2) := by
  have deeper : (Engine.start table text state (engine.depth + 1)).levels library + 1 ≤
      engine.levels library := levels_start_lt text state named allowed
  have positive : 1 ≤ text.length := List.length_pos_iff.mpr nonempty
  have below := Nat.mul_le_mul_left (text.length * Tokens.movesPerChar) deeper
  have idle := Nat.mul_le_mul_right (idleLimit + 2) positive
  calc
    _ = text.length * Tokens.movesPerChar *
          ((Engine.start table text state (engine.depth + 1)).levels library + 1) +
            idleLimit + 1 := rfl
    _ < text.length * Tokens.movesPerChar * engine.levels library +
          text.length * (idleLimit + 2) := by omega
    _ = text.length * (Tokens.movesPerChar * engine.levels library + idleLimit + 2) := by ring

/-- The characters that items cover can pay for the items, without what they pay on this level. -/
theorem Covers.work_le {start : Nat} {items : List Item} {chars : List Char}
    (covers : Covers library engine start items chars) :
    (items.map (Item.work library)).sum ≤
      chars.length * (Tokens.movesPerChar * engine.levels library + idleLimit + 2) := by
  induction covers with
  | nil => simp
  | @token start items piece chars kind nonempty _ ih =>
    have positive :
        0 < piece.length * (Tokens.movesPerChar * engine.levels library + idleLimit + 2) :=
      Nat.mul_pos (List.length_pos_iff.mpr nonempty) (Nat.succ_pos _)
    simp only [List.map_cons, List.sum_cons, Item.work, List.length_append, Nat.add_mul] at ih ⊢
    omega
  | @nested start items piece chars table state nonempty named allowed _ ih =>
    have paid := work_start_lt state nonempty named allowed
    rw [List.length_append, Nat.add_mul]
    simp only [List.map_cons, List.sum_cons, Item.work]
    omega

/-- What a step puts out and the engine after it have less work left than the engine before it. -/
theorem step_work (library : Library) (nonempty : engine.after ≠ []) :
    ((engine.step library).1.map (Item.work library)).sum + (engine.step library).2.work library <
      engine.work library := by
  obtain ⟨front, passes, covers⟩ := step_passes library engine nonempty
  have items := covers.work_le
  have levels : (engine.step library).2.levels library = engine.levels library := by
    simp only [Engine.levels, passes.table, passes.depth]
  have length := congrArg List.length passes.after
  rw [List.length_append] at length
  simp only [work, levels, length]
  rcases passes.idle with ⟨rfl, idle, next⟩ | ⟨passed, next⟩
  · -- An idle step puts nothing out, and it is one of the idle steps that are left.
    simp only [List.length_nil, Nat.zero_mul, Nat.zero_add] at items ⊢
    omega
  · -- The characters passed no longer pay on this level.
    have positive : 1 ≤ front.length := List.length_pos_iff.mpr passed
    simp only [next, Tokens.movesPerChar, idleLimit] at items ⊢
    have spread : (front.length + (engine.step library).2.after.length) * 70 *
        (engine.levels library + 1) =
          front.length * (70 * engine.levels library + 32 + 2) + 36 * front.length +
            (engine.step library).2.after.length * 70 * (engine.levels library + 1) := by ring
    omega

theorem work_step_lt (nonempty : engine.after ≠ []) :
    (engine.step library).2.work library < engine.work library := by
  have less := step_work library nonempty
  omega

end Engine

end RuleLexer
