import RuleLexer.Proofs.Engine.StackLaw
import RuleLexer.Proofs.Regex.LookFree
import RuleLexer.Proofs.Table.Closed
import RuleLexer.Proofs.Tokens.Coverage

/-!
# Resumption

An engine in the middle of a text differs from one at the beginning of what is left in the
characters behind it and in the count of its cursor. Patterns that do not look around see nothing of
either, so both engines make the same steps, and what they put out differs by the offset alone. Apart
from the text an engine has its stack, the idle steps at its place and its depth. After a step that
has moved the cursor no idle step has been made, and with nothing above the bottom the stack is the
one that a tokenization begins with. So a tokenization can be taken up there as if the text began.

Nested engines run over a part of the text that is left, so they are the same in both runs, and
where they run another table its patterns may look around.

## Main result

`tokenizeFrom_resumes`: where a step has moved the cursor and only the bottom of the stack is left,
the tokenization goes on like a new one over the rest of the text.
-/
namespace RuleLexer

open Text

/-- An item in a text that begins at an offset. -/
def Item.shift (offset : Nat) : Item → Item
  | .token single => .token (single.shift offset)
  | .nested start engine => .nested (start + offset) engine

theorem Item.tokens_map_shift (library : Library) (offset : Nat) (items : List Item) :
    Item.tokens library (items.map (Item.shift offset)) =
      (Item.tokens library items).map (Token.shift offset) := by
  induction items with
  | nil => simp [Item.tokens]
  | cons item rest ih =>
    cases item with
    | token token => simp [Item.shift, Item.tokens, ih]
    | nested start engine =>
      have moved : (engine.run library).1.map (Token.shift (start + offset)) =
          ((engine.run library).1.map (Token.shift start)).map (Token.shift offset) := by
        rw [List.map_map]
        refine List.map_congr_left fun token _ => ?_
        rw [Function.comp_apply, Token.shift_shift, Nat.add_comm]
      simp only [List.map_cons, Item.shift, Item.tokens, List.map_append, ih, moved]

/-- A stack with nothing above its bottom is known by its bottom. -/
theorem StateStack.eq_ofBottom {stack : StateStack} {state : String} (alone : stack.height = 1)
    (bottom : stack.toList.head? = some state) : stack = .ofBottom state := by
  obtain ⟨_, above⟩ := stack
  have empty : above = [] := by simpa [height] using alone
  simpa [toList, ofBottom, empty] using bottom

/-- No pattern of a table looks around. -/
def RuleTable.LookFree (table : RuleTable) : Prop :=
  ∀ state ∈ table.states, ∀ rule ∈ state.rules, rule.pattern.lookFree table.options.patterns

instance (table : RuleTable) : Decidable table.LookFree :=
  inferInstanceAs (Decidable (∀ state ∈ table.states, ∀ rule ∈ state.rules, _ = true))

namespace Engine

variable {library : Library} {engine later : Engine} {count : Nat}

/-- The same engine with more text behind it. -/
def behind (front : List Char) (engine : Engine) : Engine :=
  { engine with
    before := engine.before ++ front.reverse
    cursor := engine.cursor + byteLength front }

/-! ### Steps -/

variable (front : List Char)

theorem firing?_behind (closed : engine.table.Closed library) (free : engine.table.LookFree) :
    (engine.behind front).firing? = engine.firing? := by
  have same (rule : Rule) (member : rule ∈ engine.rules) :
      (engine.behind front).match? rule = engine.match? rule := by
    obtain ⟨source, compiled⟩ := (closed.admits_of_mem_rules member).compiled
    obtain ⟨state, known, inside⟩ := RuleTable.exists_state_of_mem_rules member
    have matched := Pattern.matchHere?_eq_of_lookFree compiled (free state known rule inside)
      engine.before (engine.behind front).before engine.after
    unfold match?
    rw [← matched]
    rfl
  have rules : (engine.behind front).rules = engine.rules := rfl
  unfold firing?
  rw [rules]
  generalize engine.rules = rules at same
  induction rules with
  | nil => rfl
  | cons rule rules ih =>
    rw [List.forall_mem_cons] at same
    rw [List.findSome?_cons, List.findSome?_cons, same.1, ih same.2]

theorem move_behind (count : Nat) :
    (engine.behind front).move count = (engine.move count).behind front := by
  simp only [move, behind, splitOnto_append]
  cases splitOnto engine.before engine.after count with
  | none => rfl
  | some cut => simp only [Option.map_some, Nat.add_right_comm]

theorem tokenOver_behind (kind : TokenKind) (start stop : Nat) :
    (engine.behind front).tokenOver kind start stop =
      (engine.tokenOver kind start stop).shift (byteLength front) := by
  simp only [tokenOver, behind, Item.shift, Token.shift, Nat.add_right_comm]

theorem itemOf_behind (library : Library) (part : Part) :
    (engine.behind front).itemOf library part =
      (engine.itemOf library part).shift (byteLength front) := by
  cases named : part.action with
  | kind kind => simp only [itemOf, named, tokenOver_behind]
  | skip => simp only [itemOf, named, tokenOver_behind]
  | delegate delegate =>
    -- The nested engine runs over a part of the text that is left, and knows nothing of the rest.
    have nested : (engine.behind front).delegated library delegate part.start part.stop =
        engine.delegated library delegate part.start part.stop := rfl
    have depth : (engine.behind front).depth = engine.depth := rfl
    have table : (engine.behind front).table = engine.table := rfl
    simp only [itemOf, named, nested, depth, table, tokenOver_behind]
    split
    · simp only [Item.shift, behind, Nat.add_right_comm]
    · rfl

theorem recover_behind :
    (engine.behind front).recover =
      (engine.recover.1.map (Item.shift (byteLength front)), engine.recover.2.behind front) := by
  have after : (engine.behind front).after = engine.after := rfl
  have table : (engine.behind front).table = engine.table := rfl
  simp only [recover, after, table, move_behind, tokenOver_behind]
  split
  · rfl
  · split <;> rfl

/-- With more text behind it, an engine makes the same step at another offset. -/
theorem step_behind (closed : engine.table.Closed library) (free : engine.table.LookFree) :
    (engine.behind front).step library =
      ((engine.step library).1.map (Item.shift (byteLength front)),
        (engine.step library).2.behind front) := by
  simp only [step, firing?_behind front closed free]
  cases engine.firing? with
  | none => exact recover_behind front
  | some firing =>
    obtain ⟨rule, found⟩ := firing
    simp only [fire, move_behind, List.map_map]
    congr 1
    exact List.map_congr_left fun part _ => itemOf_behind front library part

/-! ### Runs -/

/-- With more text behind it, an engine puts out the same tokens at another offset. -/
theorem run_behind (closed : engine.table.Closed library) (free : engine.table.LookFree) :
    (engine.behind front).run library =
      ((engine.run library).1.map (Token.shift (byteLength front)),
        (engine.run library).2.behind front) := by
  induction engine using run_induction library with
  | drained engine drained =>
    have drainedBehind : (engine.behind front).after = [] := drained
    rw [run_of_drained drained, run_of_drained drainedBehind]
    rfl
  | stepped engine nonempty ih _ =>
    have nonemptyBehind : (engine.behind front).after ≠ [] := nonempty
    obtain ⟨passed, passes, -⟩ := step_passes library engine nonempty
    have rest := ih (passes.table ▸ closed) (passes.table ▸ free)
    rw [run_of_nonempty nonempty, run_of_nonempty nonemptyBehind, step_behind front closed free,
      rest, Item.tokens_map_shift, List.map_append]

/-- After a step that has moved the cursor and left nothing above the bottom of the stack, an engine
is a new one but for the text behind it. -/
theorem Steps.eq_behind_start {table : RuleTable} {text : List Char} {state : String}
    (steps : Steps library count (.start table text state 0) engine) (nonempty : engine.after ≠ [])
    (moved : (engine.step library).2.cursor ≠ engine.cursor)
    (alone : (engine.step library).2.stack.height = 1) :
    (engine.step library).2 = (start table (engine.step library).2.after state 0).behind
      (engine.step library).2.before.reverse := by
  have past := steps.snoc nonempty
  obtain ⟨sameTable, depth⟩ := past.unchanged
  have cursor := past.aligned (aligned_start table text state 0)
  have stack := StateStack.eq_ofBottom alone past.head?_stack
  -- The cursor has moved, so the idle steps are counted anew.
  have idle : (engine.step library).2.idle = 0 := by
    obtain ⟨front, passes, -⟩ := step_passes library engine nonempty
    rcases passes.idle with ⟨rfl, -, -⟩ | ⟨-, idle⟩
    · exact absurd (by simpa [byteLength] using passes.cursor) moved
    · exact idle
  generalize (engine.step library).2 = resumed at *
  obtain ⟨_, before, after, _, _, _, _⟩ := resumed
  simp only [start, Aligned] at sameTable depth cursor stack idle
  simp [behind, start, sameTable, depth, cursor, stack, idle, StateStack.ofBottom]

end Engine

/-- **Resumption.** Let no pattern of a table that has been built look around. Whenever a step of
the outer engine, firing a rule or giving up a character, has moved the cursor and only the bottom is
left on the stack, the tokens until then tile the text up to the cursor, and the tokens from there on
are those of a new tokenization of the rest of the text from the same state, moved to where the rest
begins. The stack at the end is the same as well. -/
theorem tokenizeFrom_resumes {library : Library} {table : RuleTable}
    (built : table.BuiltFrom library) (free : table.LookFree) {text : List Char} {state : String}
    {count : Nat} {engine : Engine}
    (steps : Engine.Steps library count (.start table text state 0) engine)
    (nonempty : engine.after ≠ []) (moved : (engine.step library).2.cursor ≠ engine.cursor)
    (alone : (engine.step library).2.stack.height = 1) :
    let place := (engine.step library).2.cursor
    ∃ rest earlier, slice? text place (byteLength text) = some rest ∧
      let whole := (table.tokenizeFrom library text state).drain
      let fresh := (table.tokenizeFrom library rest state).drain
      whole.1 = earlier ++ fresh.1.map (Token.shift place) ∧
      Tiles text 0 (earlier.map Token.span) place ∧
      whole.2.stateStack = fresh.2.stateStack := by
  intro place
  have past := steps.snoc nonempty
  let resumed := (engine.step library).2
  have aligned : resumed.cursor = byteLength resumed.before.reverse :=
    past.aligned (Engine.aligned_start table text state 0)
  obtain ⟨front, earlier, split, -, cursor, tokens, spelled⟩ := past.exists_earlier
  have split : text = front ++ resumed.after := split
  have cursor : place = 0 + byteLength front := cursor
  -- From here on the run is the one over the rest of the text, but for the offset.
  let begun := Engine.start table resumed.after state 0
  have further := @Engine.run_behind library begun resumed.before.reverse built.closed free
  rw [← steps.eq_behind_start nonempty moved alone, ← aligned] at further
  obtain ⟨wholeTokens, -, wholeEnd⟩ := Tokens.drain_start library table text state
  obtain ⟨freshTokens, -, freshEnd⟩ := Tokens.drain_start library table resumed.after state
  refine ⟨resumed.after, earlier, ?_, ?_, ?_, ?_⟩
  · exact slice?_eq_some_iff.mpr
      ⟨front, [], by simp [split], by omega, by rw [split, byteLength_append]; omega⟩
  · calc (table.tokenizeFrom library text state).drain.1
        = earlier ++ (resumed.run library).1 := wholeTokens.trans tokens
      _ = earlier ++ (begun.run library).1.map (Token.shift place) := by rw [further]
      _ = _ := by rw [← freshTokens]; rfl
  · have within : text = [] ++ (front ++ resumed.after) := split
    rw [cursor]
    exact spelled.tiles within rfl
  · have ends : (resumed.run library).2.stack = (begun.run library).2.stack := by
      rw [further]
      rfl
    have wholeStack : (table.tokenizeFrom library text state).drain.2.outer.engine.stack =
        (resumed.run library).2.stack :=
      congrArg Engine.stack (wholeEnd.trans past.run_eq.symm)
    have freshStack : (table.tokenizeFrom library resumed.after state).drain.2.outer.engine.stack =
        (begun.run library).2.stack :=
      congrArg Engine.stack freshEnd
    rw [Tokens.stateStack, Tokens.stateStack, wholeStack, freshStack, ends]

/-- Strings stand between quotation marks, and their ends are places to go on from. -/
theorem tokenizeFrom_resumes_of_strings :
    let strings : TableDef := ⟨"strings", {}, [
      ⟨"root", [.staying "[a-z]+" (.token .name), .rule "'" (.token .string) (.push "string")]⟩,
      ⟨"string", [.rule "'" (.token .string) (.pop 1), .staying "[^']" (.token .string)]⟩]⟩
    let text := "'é'ab'".toList
    ∃ table, strings.build [] = .ok table ∧ table.LookFree ∧ ∃ engine,
      Engine.Steps [] 2 (.start table text "root" 0) engine ∧ engine.cursor = 3 ∧
      (engine.step []).2.cursor = 4 ∧ (engine.step []).2.stack.height = 1 ∧
      ∃ earlier, (table.tokenizeFrom [] text "root").drain.1 =
        earlier ++ (table.tokenizeFrom [] "ab'".toList "root").drain.1.map (Token.shift 4) := by
  intro strings text
  obtain ⟨table, done, free, first, second, third, before, after, alone⟩ :
      ∃ table, strings.build [] = .ok table ∧ table.LookFree ∧
        let origin := Engine.start table text "root" 0
        let inside := ((origin.step []).2.step []).2
        origin.after ≠ [] ∧ (origin.step []).2.after ≠ [] ∧ inside.after ≠ [] ∧
        inside.cursor = 3 ∧ (inside.step []).2.cursor = 4 ∧
        (inside.step []).2.stack.height = 1 :=
    ⟨_, rfl, by decide +kernel⟩
  have built := RuleTable.builtFrom_of_build done
  have steps := Engine.Steps.step first (.step second (.refl _))
  obtain ⟨rest, earlier, sliced, tokens, -⟩ :=
    tokenizeFrom_resumes built free steps third (by omega) alone
  have left : slice? text 4 (byteLength text) = some "ab'".toList := by decide +kernel
  rw [after] at sliced tokens
  cases left.symm.trans sliced
  exact ⟨table, done, free, _, steps, before, after, alone, earlier, tokens⟩

end RuleLexer
