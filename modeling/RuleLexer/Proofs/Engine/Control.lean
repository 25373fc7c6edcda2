import RuleLexer.Proofs.Engine.Run
import RuleLexer.Proofs.Regex.Ends
import RuleLexer.Proofs.Table.Equality
import RuleLexer.Proofs.Tokens.Coverage

/-!
# Actions have no influence on control

Which rule fires, where its match ends and what becomes of the stack is decided by the patterns and
the transitions of a table. What an action puts out is never looked at by the engine that puts it
out: a nested engine has a stack and a cursor of its own. So two tables that differ in nothing but
their actions make the same steps over a text, and each step puts out tokens for the same part of it.

There is one way in which an action could make itself felt: only a rule with groups needs to know
what its groups match, so the other rules can be asked for the end of their match alone. The turns of
an engine ask each rule for no more than its action needs, and find the rule that fires.

A pattern is known by its text, and with the same options the same text is read as the same pattern.
This is why it is enough to compare the texts of patterns in tables that have been built.

## Main result

`tokenizeFrom_control`: built tables with the same control make the same turns over every text.
-/
namespace RuleLexer

open Text

/-! ### Tables with the same control

What can be told from the definitions of two tables is that their rules have patterns of the same
text; what their runs depend on is that the patterns are the same. -/

def Rule.SameControl (rule twin : Rule) : Prop :=
  twin.pattern.source = rule.pattern.source ∧ twin.next = rule.next

def State.SameControl (state twin : State) : Prop :=
  twin.name = state.name ∧ List.Forall₂ Rule.SameControl state.rules twin.rules

structure RuleTable.SameControl (table twin : RuleTable) : Prop where
  options : twin.options = table.options
  states : List.Forall₂ State.SameControl table.states twin.states

def Rule.Alike (rule twin : Rule) : Prop :=
  twin.pattern = rule.pattern ∧ twin.next = rule.next

/-- Two tables have the same options and, in every state, rules that are alike. -/
structure RuleTable.Alike (table twin : RuleTable) : Prop where
  options : twin.options = table.options
  rules : ∀ name, List.Forall₂ Rule.Alike (table.rules name) (twin.rules name)

namespace RuleTable

variable {library other : Library} {table twin : RuleTable}

theorem SameControl.rules (same : table.SameControl twin) (name : String) :
    List.Forall₂ Rule.SameControl (table.rules name) (twin.rules name) := by
  have sameStates := same.states
  unfold RuleTable.rules state?
  -- The states are looked through side by side, and their names are the same.
  generalize table.states = states, twin.states = twins at sameStates
  induction sameStates with
  | nil => exact .nil
  | @cons state twinState states twins first _ ih =>
    simp only [List.find?_cons, first.1]
    cases state.name == name with
    | true => exact first.2
    | false => exact ih

theorem alike_of_admits (options : twin.options = table.options) {rules twins : List Rule}
    (inside : ∀ rule ∈ rules, table.Admits library rule)
    (insideTwin : ∀ rule ∈ twins, twin.Admits other rule)
    (same : List.Forall₂ Rule.SameControl rules twins) : List.Forall₂ Rule.Alike rules twins := by
  induction same with
  | nil => exact .nil
  | cons first _ ih =>
    rw [List.forall_mem_cons] at inside insideTwin
    have pattern := inside.1.pattern_eq insideTwin.1 options first.1
    exact .cons ⟨pattern, first.2⟩ (ih inside.2 insideTwin.2)

theorem SameControl.alike (same : table.SameControl twin) (closed : table.Closed library)
    (closedTwin : twin.Closed other) : table.Alike twin :=
  ⟨same.options, fun name => alike_of_admits same.options
    (fun _ member => closed.admits_of_mem_rules member)
    (fun _ member => closedTwin.admits_of_mem_rules member) (same.rules name)⟩

end RuleTable

/-! ### Turns -/

/-- Where the match of a rule at a place ends, counted from the place. Only a rule whose groups have
actions is asked what its groups match. -/
def Rule.stopHere? (rule : Rule) (before after : List Char) : Option Nat :=
  match rule.action with
  | .byGroups _ => (rule.pattern.matchHere? before after).map Match.stop
  | .token _ | .delegate _ => rule.pattern.stopHere? before after

/-- What a rule is asked for makes no difference to where its match ends. -/
theorem Rule.stopHere?_eq (rule : Rule) (before after : List Char) :
    rule.stopHere? before after = (rule.pattern.matchHere? before after).map Match.stop := by
  unfold stopHere?
  cases rule.action with
  | byGroups _ => rfl
  | token _ => exact rule.pattern.stopHere?_eq before after
  | delegate _ => exact rule.pattern.stopHere?_eq before after

/-- What a step does apart from what it puts out. -/
structure Turn where
  /-- The place of the rule that fires among the rules on top of the stack; none fires if a character
  is given up. -/
  rule : Option Nat
  start : Nat
  /-- The cursor after the step, which is the end of the match. -/
  stop : Nat
  /-- The stack after the step, from the bottom up. -/
  stack : List String
deriving DecidableEq, Repr

/-- A turn tells what the step of an engine does. The place in it is that of the rule that fires, and
it stops where the match of this rule ends; no place means that no rule fires. -/
structure Turn.Tells (library : Library) (engine : Engine) (turn : Turn) : Prop where
  fires : ∀ rule found, engine.firing? = some (rule, found) →
    ∃ place, turn.rule = some place ∧ engine.rules[place]? = some rule ∧
      turn.stop = engine.cursor + found.stop
  silent : engine.firing? = none → turn.rule = none
  start : turn.start = engine.cursor
  stop : turn.stop = (engine.step library).2.cursor
  stack : turn.stack = (engine.step library).2.stack.toList

/-- Turns record the steps from an engine to the end of its text, one by one and with none left
over. -/
structure Turn.Record (library : Library) (origin : Engine) (turns : List Turn) : Prop where
  tells : ∀ count engine, Engine.Steps library count origin engine → engine.after ≠ [] →
    ∃ turn, turns[count]? = some turn ∧ turn.Tells library engine
  length : ∀ count engine, Engine.Steps library count origin engine → engine.after = [] →
    turns.length = count

/-- The tokens fall into portions, one for each turn, and each portion tiles what its turn passes. -/
def Turn.Portions (text : List Char) (turns : List Turn) (tokens : List Token) : Prop :=
  ∃ portions : List (List Token), tokens = portions.flatten ∧
    List.Forall₂ (fun turn portion => Tiles text turn.start (portion.map Token.span) turn.stop)
      turns portions

namespace Engine

variable {library other : Library} {engine twin : Engine}

/-- Where the match of a rule at the cursor ends, in bytes from there, unless it is empty and no
empty match is left. -/
def stop? (engine : Engine) (rule : Rule) : Option Nat :=
  (rule.stopHere? engine.before engine.after).filter fun stop =>
    0 < stop || engine.idle < idleLimit

theorem stop?_eq (rule : Rule) : engine.stop? rule = (engine.match? rule).map Match.stop := by
  rw [stop?, Rule.stopHere?_eq, Option.filter_map]
  rfl

def turn (library : Library) (engine : Engine) : Turn where
  rule := engine.rules.findIdx? fun rule => (engine.stop? rule).isSome
  start := engine.cursor
  stop := (engine.step library).2.cursor
  stack := (engine.step library).2.stack.toList

/-- The turns of all steps that an engine makes until no text is left. -/
def turns (library : Library) (engine : Engine) : List Turn :=
  if engine.after = [] then [] else engine.turn library :: (engine.step library).2.turns library
termination_by engine.work library
decreasing_by exact work_step_lt ‹_›

theorem turns_of_drained (drained : engine.after = []) : engine.turns library = [] := by
  rw [turns, if_pos drained]

theorem turns_of_nonempty (nonempty : engine.after ≠ []) :
    engine.turns library = engine.turn library :: (engine.step library).2.turns library := by
  rw [turns, if_neg nonempty]

theorem exists_place {rules : List Rule} {rule : Rule} {found : Match}
    (fires : rules.findSome? (fun rule => (engine.match? rule).map fun found => (rule, found)) =
      some (rule, found)) :
    ∃ place, rules.findIdx? (fun rule => (engine.stop? rule).isSome) = some place ∧
      rules[place]? = some rule := by
  induction rules with
  | nil => cases fires
  | cons first rest ih =>
    rw [List.findSome?_cons] at fires
    rw [List.findIdx?_cons, stop?_eq]
    cases matched : engine.match? first with
    | none =>
      -- The rule that fires stands one place further than among the other rules.
      obtain ⟨place, here, there⟩ := ih (by simpa [matched] using fires)
      exact ⟨place + 1, by simp [here], there⟩
    | some _ =>
      simp only [matched, Option.map_some, Option.some.injEq, Prod.mk.injEq] at fires
      obtain ⟨rfl, -⟩ := fires
      exact ⟨0, rfl, rfl⟩

/-- The rule that is found by asking for ends only is the rule that fires. -/
theorem turn_tells (library : Library) (engine : Engine) :
    (engine.turn library).Tells library engine where
  fires rule found fires := by
    obtain ⟨place, here, there⟩ := exists_place fires
    exact ⟨place, here, there, cursor_step_of_fires library fires⟩
  silent silent := by simpa [turn, firing?, stop?_eq] using silent
  start := rfl
  stop := rfl
  stack := rfl

/-- Without the turns of some steps, the turns of an engine are those of the engine that these steps
lead to. -/
theorem Steps.drop_turns {count : Nat} {origin : Engine}
    (steps : Steps library count origin engine) :
    (origin.turns library).drop count = engine.turns library := by
  induction steps with
  | refl => rfl
  | step nonempty _ ih => rw [turns_of_nonempty nonempty, List.drop_succ_cons, ih]

theorem turns_record (library : Library) (origin : Engine) :
    Turn.Record library origin (origin.turns library) where
  tells count engine steps nonempty := by
    have here : (origin.turns library)[count]? = some (engine.turn library) := by
      rw [← List.head?_drop, steps.drop_turns, turns_of_nonempty nonempty, List.head?_cons]
    exact ⟨_, here, turn_tells library engine⟩
  length count engine steps drained := by
    induction steps with
    | refl => rw [turns_of_drained drained, List.length_nil]
    | step nonempty _ ih => rw [turns_of_nonempty nonempty, List.length_cons, ih drained]

theorem run_portions (library : Library) (engine : Engine) (aligned : engine.Aligned) :
    Turn.Portions engine.text (engine.turns library) (engine.run library).1 := by
  induction engine using run_induction library with
  | drained engine drained =>
    rw [turns_of_drained drained, run_of_drained drained]
    exact ⟨[], rfl, .nil⟩
  | stepped engine nonempty ih _ =>
    obtain ⟨front, passes, covers⟩ := step_passes library engine nonempty
    obtain ⟨portions, joined, tiled⟩ := ih (passes.aligned aligned)
    rw [passes.text_eq] at tiled
    -- The first portion is what this step puts out, nested engines run to their ends.
    rw [turns_of_nonempty nonempty, run_of_nonempty nonempty]
    refine ⟨Item.tokens library (engine.step library).1 :: portions, by simp [joined],
      .cons ?_ tiled⟩
    have within : engine.text = engine.before.reverse ++
        (front ++ (engine.step library).2.after) := by
      rw [text, passes.after]
    have here := covers.spells.tiles within aligned.symm
    rwa [← passes.cursor] at here

/-! ### Engines in the same place -/

/-- Two engines have come to the same place of the same text with the same stack, and their tables
are alike. -/
structure Agrees (engine twin : Engine) : Prop where
  table : engine.table.Alike twin.table
  before : twin.before = engine.before
  after : twin.after = engine.after
  cursor : twin.cursor = engine.cursor
  stack : twin.stack = engine.stack
  idle : twin.idle = engine.idle

namespace Agrees

theorem rules (agrees : Agrees engine twin) :
    List.Forall₂ Rule.Alike engine.rules twin.rules := by
  unfold Engine.rules
  rw [agrees.stack]
  exact agrees.table.rules _

theorem match?_eq (agrees : Agrees engine twin) {rule twinRule : Rule}
    (alike : rule.Alike twinRule) : twin.match? twinRule = engine.match? rule := by
  simp only [match?, alike.1, agrees.before, agrees.after, agrees.idle]

/-- Alike rules match up to the same place, though one may have groups and the other one not. -/
theorem stop?_eq (agrees : Agrees engine twin) {rule twinRule : Rule}
    (alike : rule.Alike twinRule) : twin.stop? twinRule = engine.stop? rule := by
  rw [Engine.stop?_eq, Engine.stop?_eq, agrees.match?_eq alike]

/-- In two lists of rules that are alike, the first rule that matches stands at the same place. -/
theorem findIdx?_eq (agrees : Agrees engine twin) {rules twins : List Rule}
    (alike : List.Forall₂ Rule.Alike rules twins) :
    (twins.findIdx? fun rule => (twin.stop? rule).isSome) =
      rules.findIdx? fun rule => (engine.stop? rule).isSome := by
  induction alike with
  | nil => rfl
  | cons first _ ih => rw [List.findIdx?_cons, List.findIdx?_cons, agrees.stop?_eq first, ih]

/-- Alike rules fire with the same match, or no rule fires. -/
theorem firing?_alike (agrees : Agrees engine twin) :
    (engine.firing? = none ∧ twin.firing? = none) ∨
      ∃ rule twinRule found, engine.firing? = some (rule, found) ∧
        twin.firing? = some (twinRule, found) ∧ rule.Alike twinRule := by
  have alike := agrees.rules
  unfold firing?
  generalize engine.rules = rules, twin.rules = twins at alike
  induction alike with
  | nil => exact .inl ⟨rfl, rfl⟩
  | @cons rule twinRule _ _ first _ ih =>
    simp only [List.findSome?_cons, agrees.match?_eq first]
    cases engine.match? rule with
    | none => exact ih
    | some found => exact .inr ⟨rule, twinRule, found, rfl, rfl, first⟩

theorem move (agrees : Agrees engine twin) (count : Nat) :
    Agrees (engine.move count) (twin.move count) := by
  unfold Engine.move
  rw [agrees.before, agrees.after]
  split
  next => exact ⟨agrees.table, rfl, rfl, by simp only [agrees.cursor], agrees.stack,
    by simp only [agrees.idle]⟩
  next => exact agrees

theorem withStack (agrees : Agrees engine twin) (stack : StateStack) :
    Agrees { engine with stack } { twin with stack } :=
  ⟨agrees.table, agrees.before, agrees.after, agrees.cursor, rfl, agrees.idle⟩

theorem step (agrees : Agrees engine twin) :
    Agrees (engine.step library).2 (twin.step other).2 := by
  have options := agrees.table.options
  -- Only the transition of the rule and the options of the table bear on the engine after the step.
  rcases agrees.firing?_alike with
    ⟨silent, silentTwin⟩ | ⟨rule, twinRule, found, fires, firesTwin, alike⟩
  · simp only [Engine.step, silent, silentTwin, recover, agrees.after, options]
    cases engine.after with
    | nil => exact agrees
    | cons char rest =>
      dsimp only
      split
      · rw [agrees.stack]
        exact (agrees.move _).withStack _
      · exact agrees.move _
  · simp only [Engine.step, fires, firesTwin, fire, agrees.stack, options, alike.2]
    exact (agrees.move _).withStack _

theorem turn_eq (agrees : Agrees engine twin) : twin.turn other = engine.turn library := by
  have next : Agrees (engine.step library).2 (twin.step other).2 := agrees.step
  unfold turn
  rw [agrees.findIdx?_eq agrees.rules, agrees.cursor, next.cursor, next.stack]

/-- Engines in the same place make the same turns and end in the same place. -/
theorem turns_eq (agrees : Agrees engine twin) :
    twin.turns other = engine.turns library ∧
      Agrees (engine.run library).2 (twin.run other).2 := by
  induction engine using run_induction library generalizing twin with
  | drained engine drained =>
    have drainedTwin := agrees.after.trans drained
    rw [turns_of_drained drained, turns_of_drained drainedTwin, run_of_drained drained,
      run_of_drained drainedTwin]
    exact ⟨rfl, agrees⟩
  | stepped engine nonempty ih _ =>
    have nonemptyTwin : twin.after ≠ [] := agrees.after ▸ nonempty
    obtain ⟨later, final⟩ := @ih (twin.step other).2 agrees.step
    rw [turns_of_nonempty nonempty, turns_of_nonempty nonemptyTwin, run_of_nonempty nonempty,
      run_of_nonempty nonemptyTwin, agrees.turn_eq, later]
    exact ⟨rfl, final⟩

end Agrees

theorem agrees_start {table twin : RuleTable} (alike : table.Alike twin) (text : List Char)
    (state : String) : Agrees (start table text state 0) (start twin text state 0) :=
  ⟨alike, rfl, rfl, rfl, rfl, rfl⟩

end Engine

/-- **Control.** Take two tables that have been built, with the same options and the same names of
states, whose rules have, state by state and one by one, patterns of the same text and the same
transitions. Over every text and from every state their tokenizations make the same turns: the rule
at the same place fires at the same cursor, its match ends at the same place, and the stack after it
is the same. The turns record every step of the one and every step of the other. Of both the tokens
fall into portions that tile, turn by turn, what is passed, and both end with the same cursor and the
same stack. The actions, and the tables that they hand text to, are not compared. -/
theorem tokenizeFrom_control {library other : Library} {table twin : RuleTable}
    (built : table.BuiltFrom library) (builtTwin : twin.BuiltFrom other)
    (same : table.SameControl twin) (text : List Char) (state : String) :
    let turns := (Engine.start table text state 0).turns library
    let stream := (table.tokenizeFrom library text state).drain
    let streamTwin := (twin.tokenizeFrom other text state).drain
    (Engine.start twin text state 0).turns other = turns ∧
    Turn.Record library (.start table text state 0) turns ∧
    Turn.Record other (.start twin text state 0) turns ∧
    Turn.Portions text turns stream.1 ∧ Turn.Portions text turns streamTwin.1 ∧
    streamTwin.2.cursor = stream.2.cursor ∧ streamTwin.2.stateStack = stream.2.stateStack := by
  intro turns stream streamTwin
  have agrees := Engine.agrees_start (same.alike built.closed builtTwin.closed) text state
  obtain ⟨sameTurns, final⟩ := @Engine.Agrees.turns_eq library other _ _ agrees
  obtain ⟨tokens, -, ended⟩ := Tokens.drain_start library table text state
  obtain ⟨tokensTwin, -, endedTwin⟩ := Tokens.drain_start other twin text state
  have aligned := Engine.aligned_start
  have last : Engine.Agrees stream.2.outer.engine streamTwin.2.outer.engine := by
    rwa [← ended, ← endedTwin] at final
  have record := Engine.turns_record other (.start twin text state 0)
  rw [sameTurns] at record
  refine ⟨sameTurns, Engine.turns_record _ _, record, ?_, ?_, last.cursor,
    congrArg StateStack.toList last.stack⟩
  · have portions := Engine.run_portions library _ (aligned table text state 0)
    rwa [← tokens] at portions
  · have portions := Engine.run_portions other _ (aligned twin text state 0)
    rwa [sameTurns, ← tokensTwin] at portions

/-- A tag is one string, or it is taken apart and its name is handed to another table. -/
theorem tokenizeFrom_control_of_tags :
    let words : TableDef := ⟨"words", {}, [⟨"root", [.staying "[a-z]+" (.token .name)]⟩]⟩
    let plain : TableDef := ⟨"plain", {}, [
      ⟨"root", [.rule "(<)([a-z]*)" (.token .string) (.push "tag")]⟩,
      ⟨"tag", [.rule ">" (.token .string) (.pop 1)]⟩]⟩
    let split : TableDef := ⟨"split", {}, [
      ⟨"root", [.rule "(<)([a-z]*)"
        (.byGroups [.kind .punctuation, .delegate ⟨.entry 0, none⟩]) (.push "tag")]⟩,
      ⟨"tag", [.rule ">" (.token .punctuation) (.pop 1)]⟩]⟩
    ∃ inner table twin, words.build [] = .ok inner ∧ plain.build [] = .ok table ∧
      split.build [inner] = .ok twin ∧ table.SameControl twin ∧
      (Engine.start twin "<a>?".toList "root" 0).turns [inner] =
        (Engine.start table "<a>?".toList "root" 0).turns [] := by
  intro words plain split
  obtain ⟨inner, table, twin, builtInner, done, doneTwin, same⟩ : ∃ inner table twin,
      words.build [] = .ok inner ∧ plain.build [] = .ok table ∧ split.build [inner] = .ok twin ∧
      table.SameControl twin :=
    ⟨_, _, _, rfl, rfl, rfl, rfl,
      .cons ⟨rfl, .cons ⟨rfl, rfl⟩ .nil⟩ (.cons ⟨rfl, .cons ⟨rfl, rfl⟩ .nil⟩ .nil)⟩
  have built := RuleTable.builtFrom_of_build done
  have builtTwin := RuleTable.builtFrom_of_build doneTwin
  exact ⟨inner, table, twin, builtInner, done, doneTwin, same,
    (tokenizeFrom_control built builtTwin same "<a>?".toList "root").1⟩

end RuleLexer
