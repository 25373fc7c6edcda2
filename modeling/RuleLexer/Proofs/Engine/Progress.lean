import RuleLexer.Proofs.Engine.Safety
import RuleLexer.Proofs.Regex.Consumption

/-!
# Progress

A rule that stays in its state should consume whenever it fires, or else the same rule would fire
again at the same place. A table refuses such a rule if the least length of its pattern is zero.
This is enough for every pattern that has a least length. A pattern with an empty set somewhere has
none, is taken, and may well match the empty text; then nothing but the limit on idle steps brings
the engine forward.

## Main result

`tokenizeFrom_progress`: apart from patterns with empty sets, no staying rule of a table that has
been built matches the empty text, so a step that passes nothing fires a rule that does not stay, or
one with such a pattern.
-/
namespace RuleLexer

open Text

namespace Pattern

variable {options : PatternOptions} {source : String} {pattern : Pattern}

/-- Every set in the expression that a pattern is read from has a member. -/
def Populated (options : PatternOptions) (pattern : Pattern) : Prop :=
  ∃ expr, readExpr options (body pattern.source) = .ok expr ∧ expr.Populated

theorem populated_iff_leastLength (compiled : compile options source = .ok pattern) :
    pattern.Populated options ↔ pattern.leastLength.isSome := by
  obtain ⟨expr, read, -, length, -, rfl⟩ := compile_eq_ok compiled
  rw [length, Regex.Expr.leastLength_isSome_iff, Populated]
  simp [read]

/-- Matches at an offset are matches at the place, counted from the beginning of the text. -/
theorem matchAt_eq_some {text : List Char} {offset : Nat} {found : Match}
    (matched : pattern.matchAt text offset = .ok (some found)) :
    ∃ before after here, splitAt? text offset = some (before, after) ∧
      pattern.matchHere? before after = some here ∧ found.stop = offset + here.stop := by
  unfold matchAt at matched
  split at matched
  next before after cut =>
    obtain ⟨here, matchedHere, rfl⟩ := Option.map_eq_some_iff.mp (Except.ok.inj matched)
    exact ⟨before, after, here, cut, matchedHere, rfl⟩
  next =>
    split at matched
    · cases matched
    · split at matched <;> cases matched

end Pattern

/-- A staying rule of a table consumes at every match, if its pattern has no empty set. -/
theorem RuleTable.Admits.stop_pos {library : Library} {table : RuleTable} {rule : Rule}
    (admits : table.Admits library rule) (stays : rule.next = .stay)
    (populated : rule.pattern.Populated table.options.patterns) {before after : List Char}
    {found : Match} (matched : rule.pattern.matchHere? before after = some found) :
    0 < found.stop := by
  obtain ⟨source, compiled⟩ := admits.compiled
  have known := (Pattern.populated_iff_leastLength compiled).mp populated
  obtain ⟨least, length⟩ := Option.isSome_iff_exists.mp known
  have positive : 0 < least := by
    rw [Nat.pos_iff_ne_zero]
    rintro rfl
    exact admits.moves ⟨by simp [Pattern.canMatchEmpty, length], stays⟩
  exact Pattern.stop_pos_of_leastLength compiled length positive matched

namespace Engine

variable {library : Library} {engine : Engine}

/-- A step that leaves the cursor where it is fires a rule with an empty match. -/
theorem exists_firing_of_still (nonempty : engine.after ≠ [])
    (still : (engine.step library).2.cursor = engine.cursor) :
    ∃ rule found, engine.firing? = some (rule, found) ∧ found.stop = 0 := by
  cases fires : engine.firing? with
  | none =>
    -- A character that is given up is passed.
    obtain ⟨char, rest, split⟩ := List.exists_cons_of_ne_nil nonempty
    have passes := (recover_passes library split).1
    have size := char.utf8Size_pos
    have moved := passes.cursor
    simp only [step, fires] at still
    simp only [byteLength] at moved
    omega
  | some firing =>
    obtain ⟨rule, found⟩ := firing
    rw [cursor_step_of_fires library fires] at still
    exact ⟨rule, found, rfl, by omega⟩

end Engine

/-- **Progress.** In a table that has been built, a rule that stays and whose pattern has no empty
set matches the empty text at no offset of any text. Hence, whatever engine a tokenization brings
about, a step that passes nothing fires a rule that does not stay, unless its pattern has an empty
set. -/
theorem tokenizeFrom_progress {library : Library} {table : RuleTable} {state : String}
    (tables : library.Built) (built : table.BuiltFrom library) (known : table.hasState state)
    (text : List Char) :
    (∀ state ∈ table.states, ∀ rule ∈ state.rules, rule.next = .stay →
      rule.pattern.Populated table.options.patterns →
        ∀ text offset found, rule.pattern.matchAt text offset = .ok (some found) →
          offset < found.stop) ∧
    ∀ engine, Engine.Reaches library (.start table text state 0) engine → engine.after ≠ [] →
      (engine.step library).2.cursor = engine.cursor →
        ∃ rule found, engine.firing? = some (rule, found) ∧ found.stop = 0 ∧
          (rule.pattern.Populated engine.table.options.patterns → rule.next ≠ .stay) := by
  constructor
  · intro state member rule inside stays populated text offset found matched
    have admits := built.closed.rules state member rule inside
    obtain ⟨before, after, here, -, matchedHere, stop⟩ := Pattern.matchAt_eq_some matched
    have positive := admits.stop_pos stays populated matchedHere
    omega
  · intro engine reached nonempty still
    have begun := Engine.consistent_start built.closed known text 0
    have consistent := reached.consistent (fun _ => tables.closed) begun
    obtain ⟨rule, found, fires, empty⟩ := Engine.exists_firing_of_still nonempty still
    refine ⟨rule, found, fires, empty, ?_⟩
    intro populated stays
    obtain ⟨member, matched, -⟩ := Engine.firing?_eq_some fires
    have positive := (consistent.admits member).stop_pos stays populated matched
    omega

/-- A rule for words stays and consumes. In front of a digit nothing but the rule that is always
taken is left: its step passes nothing, and it goes to another state. -/
theorem tokenizeFrom_progress_of_words :
    let words : TableDef := ⟨"words", {}, [
      ⟨"root", [.staying "[a-z]+" (.token .name), .always (.push "number")]⟩,
      ⟨"number", [.rule "[0-9]+" (.token .number) (.pop 1)]⟩]⟩
    ∃ table state word, words.build [] = .ok table ∧
      (state ∈ table.states ∧ word ∈ state.rules ∧ word.next = .stay ∧
        word.pattern.Populated table.options.patterns) ∧
      (∃ found, word.pattern.matchAt "to do".toList 3 = .ok (some found) ∧ 3 < found.stop) ∧
      let engine := Engine.start table "7".toList "root" 0
      (engine.step []).2.cursor = engine.cursor ∧
        ∃ rule found, engine.firing? = some (rule, found) ∧ found.stop = 0 ∧ rule.next ≠ .stay := by
  intro words
  obtain ⟨table, state, word, done, member, inside, root, stays, lengths, matched, still⟩ :
      ∃ table state word, words.build [] = .ok table ∧ state ∈ table.states ∧ word ∈ state.rules ∧
        table.state? "root" = some state ∧ word.next = .stay ∧
        (state.rules.all fun rule => rule.pattern.leastLength.isSome) ∧
        word.pattern.matchAt "to do".toList 3 = .ok (some ⟨5, []⟩) ∧
        ((Engine.start table "7".toList "root" 0).step []).2.cursor = 0 :=
    ⟨_, _, _, rfl, .head _, .head _, rfl, rfl, rfl, by decide +kernel, by decide +kernel⟩
  have built := RuleTable.builtFrom_of_build done
  -- The least lengths are computed, and a pattern that has one has no empty set.
  have populated : ∀ rule ∈ state.rules, rule.pattern.Populated table.options.patterns := by
    intro rule among
    obtain ⟨source, compiled⟩ := (built.closed.rules state member rule among).compiled
    exact (Pattern.populated_iff_leastLength compiled).mpr (List.all_eq_true.mp lengths rule among)
  have known : table.hasState "root" := by rw [RuleTable.hasState, root, Option.isSome_some]
  have progress := tokenizeFrom_progress .nil built known "7".toList
  have positive := progress.1 state member word inside stays (populated word inside) _ _ _ matched
  obtain ⟨rule, found, fires, empty, moves⟩ := progress.2 _ .origin (List.cons_ne_nil _ _) still
  have among : rule ∈ table.rules "root" := (Engine.firing?_eq_some fires).1
  rw [RuleTable.rules, root, Option.elim_some] at among
  exact ⟨table, state, word, done, ⟨member, inside, stays, populated word inside⟩,
    ⟨_, matched, positive⟩, still, rule, found, fires, empty, moves (populated rule among)⟩

/-- An empty set or nothing: the pattern has no least length, so a rule that stays may have it. It
matches the empty text, and the step that fires it passes nothing and leaves the stack alone. -/
theorem exists_idle_step_of_stay :
    let pattern : Pattern := ⟨"[a&&b]|", none, .alt (.set .empty) .done, 0, none⟩
    let rule : Rule := ⟨pattern, .token .text, .stay⟩
    let table : RuleTable := ⟨"idle", {}, [⟨"root", [rule]⟩]⟩
    let engine := Engine.start table ['a'] "root" 0
    (⟨"idle", {}, [⟨"root", [.staying "[a&&b]|" (.token .text)]⟩]⟩ : TableDef).build [] =
      .ok table ∧
    pattern.matchAt ['a'] 0 = .ok (some ⟨0, []⟩) ∧ pattern.matchAt ['a'] 1 = .ok (some ⟨1, []⟩) ∧
    (engine.step []).2.cursor = engine.cursor ∧ (engine.step []).2.stack = engine.stack := by
  refine ⟨rfl, ?_, ?_, ?_, ?_⟩ <;> decide +kernel

end RuleLexer
