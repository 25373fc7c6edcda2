import RuleLexer.Proofs.Engine.Safety
import RuleLexer.Proofs.Tokens.View

/-!
# Exchanging a table

An engine asks its table for four things: the rules of the state on top of the stack, the height the
stack may have, the depth nested engines may have, and whether a line end resets the stack. A table
can be exchanged for another one in the middle of a run, and nothing is seen of it if the other one
gives the same answers where it is asked. It is asked by the engine itself and by the nested engines
to which this engine and these hand text for their own table. Engines that run other tables of the
library are the same in both runs.

## Main results

* `step_withTable`: with a table that suits it, an engine makes the same step.
* `Tokens.equivalent_of_suits`: if the other table suits every engine that runs the first one,
  nothing is seen of the exchange.
-/
namespace RuleLexer

/-- A table knows the states of another one and treats nesting and line ends alike. -/
structure RuleTable.Hosts (table twin : RuleTable) : Prop where
  states : ∀ name, table.hasState name → twin.hasState name
  depth : twin.options.run.maxDelegateDepth = table.options.run.maxDelegateDepth
  resets : twin.options.run.resetOnNewline = table.options.run.resetOnNewline

namespace Engine

/-- The same engine with another table. -/
def withTable (twin : RuleTable) (engine : Engine) : Engine := { engine with table := twin }

/-- A table suits an engine if at the next step the same rule fires with it, or none as before, and
its transition makes the same of the stack. -/
structure Suits (twin : RuleTable) (engine : Engine) : Prop where
  firing : (engine.withTable twin).firing? = engine.firing?
  stack : ∀ rule found, engine.firing? = some (rule, found) →
    engine.stack.apply twin.options.run.maxStackDepth rule.next =
      engine.stack.apply engine.table.options.run.maxStackDepth rule.next

variable {library : Library} {engine origin inner : Engine} {twin : RuleTable}

/-! ### Steps -/

theorem move_withTable (count : Nat) :
    (engine.withTable twin).move count = (engine.move count).withTable twin := by
  simp only [move, withTable]
  split <;> rfl

theorem recover_withTable
    (resets : twin.options.run.resetOnNewline = engine.table.options.run.resetOnNewline) :
    (engine.withTable twin).recover =
      (engine.recover.1, engine.recover.2.withTable twin) := by
  have resets : (engine.withTable twin).table.options.run.resetOnNewline =
      engine.table.options.run.resetOnNewline := resets
  have after : (engine.withTable twin).after = engine.after := rfl
  simp only [recover, after, move_withTable, resets]
  split
  · rfl
  · split <;> rfl

/-- With a table that suits it, an engine makes the same step. -/
theorem step_withTable (library : Library) (suits : engine.Suits twin)
    (resets : twin.options.run.resetOnNewline = engine.table.options.run.resetOnNewline) :
    ((engine.withTable twin).step library).2 = (engine.step library).2.withTable twin := by
  simp only [step, suits.firing]
  cases fires : engine.firing? with
  | none => rw [recover_withTable resets]
  | some firing =>
    obtain ⟨rule, found⟩ := firing
    have stack : (engine.withTable twin).stack.apply
        (engine.withTable twin).table.options.run.maxStackDepth rule.next =
          engine.stack.apply engine.table.options.run.maxStackDepth rule.next :=
      suits.stack rule found fires
    simp only [fire, stack, move_withTable]
    rfl

/-! ### Engines that run the table of their run -/

/-- An engine of a run that runs the table the run began with: the first one, one that has made a
further step, or one to which such an engine hands text for its own table. -/
inductive ReachesOwn (library : Library) (origin : Engine) : Engine → Prop
  | origin : ReachesOwn library origin origin
  | step {engine : Engine} (reached : ReachesOwn library origin engine)
      (nonempty : engine.after ≠ []) : ReachesOwn library origin (engine.step library).2
  | nested {engine : Engine} {rule : Rule} {found : Match} {part : Part} {delegate : Delegate}
      (reached : ReachesOwn library origin engine) (nonempty : engine.after ≠ [])
      (fires : engine.firing? = some (rule, found)) (among : part ∈ Part.ofMatch rule.action found)
      (handed : part.action = .delegate delegate) (own : delegate.target = .this)
      (allowed : engine.depth < engine.table.options.run.maxDelegateDepth) :
      ReachesOwn library origin (engine.delegated library delegate part.start part.stop)

theorem itemOf_of_allowed (library : Library) {part : Part} {delegate : Delegate}
    (handed : part.action = .delegate delegate)
    (allowed : engine.depth < engine.table.options.run.maxDelegateDepth) :
    engine.itemOf library part = .nested (engine.cursor + part.start)
      (engine.delegated library delegate part.start part.stop) := by
  simp only [itemOf, handed, if_pos allowed]

/-- What a part puts out is put out by the step that fires. -/
theorem mem_items_of_fires (library : Library) {rule : Rule} {found : Match} {part : Part}
    (fires : engine.firing? = some (rule, found)) (among : part ∈ Part.ofMatch rule.action found) :
    engine.itemOf library part ∈ (engine.step library).1 := by
  simp only [step, fires, fire]
  exact List.mem_map_of_mem among

namespace ReachesOwn

theorem trans (first : ReachesOwn library origin engine)
    (second : ReachesOwn library engine inner) : ReachesOwn library origin inner := by
  induction second with
  | origin => exact first
  | step _ nonempty ih => exact ih.step nonempty
  | nested _ nonempty fires among handed own allowed ih =>
    exact ih.nested nonempty fires among handed own allowed

theorem reaches (reached : ReachesOwn library origin engine) : Reaches library origin engine := by
  induction reached with
  | origin => exact .origin
  | step _ nonempty ih => exact ih.step nonempty
  | nested _ nonempty fires among handed _ allowed ih =>
    have put := mem_items_of_fires library fires among
    rw [itemOf_of_allowed library handed allowed] at put
    exact ih.nested nonempty put

theorem table_delegated {delegate : Delegate} (own : delegate.target = .this) (start stop : Nat) :
    (engine.delegated library delegate start stop).table = engine.table := by
  simp [delegated, Engine.start, own, DelegateTarget.table?]

theorem table_eq (reached : ReachesOwn library origin engine) : engine.table = origin.table := by
  induction reached with
  | origin => rfl
  | step _ _ ih => exact (table_step library).trans ih
  | nested _ _ _ _ _ own _ ih => exact (table_delegated own _ _).trans ih

end ReachesOwn

/-! ### Whole runs -/

/-- A delegate for the table of an engine runs the other table from the same state, and a delegate
for a table of the library runs the same engine as before. -/
theorem delegated_withTable {rule : Rule} {delegate : Delegate}
    (admits : engine.table.Admits library rule) (hosts : engine.table.Hosts twin)
    (named : delegate ∈ rule.action.delegates) (start stop : Nat) :
    (engine.withTable twin).delegated library delegate start stop =
      if delegate.target = .this then
        (engine.delegated library delegate start stop).withTable twin
      else engine.delegated library delegate start stop := by
  obtain ⟨target, there, starts⟩ := admits.delegates delegate named
  obtain ⟨goal, state⟩ := delegate
  cases goal with
  | this =>
    cases there
    -- A state that the delegate names is known to both tables.
    have kept : state.filter twin.hasState = state.filter engine.table.hasState := by
      cases state with
      | none => rfl
      | some start =>
        have known := starts start rfl
        simp [Option.filter, known, hosts.states start known]
    simp only [delegated, DelegateTarget.table?, Option.getD_some, if_true]
    change Engine.start twin _ ((state.filter twin.hasState).getD _) _ = _
    rw [kept]
    rfl
  | entry position =>
    have there : library[position]? = some target := there
    simp only [delegated, DelegateTarget.table?, there, Option.getD_some, reduceCtorEq, if_false]
    rfl

/-- The tokens of items are those of each item, one after the other. -/
theorem tokens_eq_flatMap (library : Library) (items : List Item) :
    Item.tokens library items = items.flatMap fun item => Item.tokens library [item] := by
  induction items with
  | nil => simp [Item.tokens]
  | cons item rest ih => cases item <;> simp [Item.tokens, ih]

section

variable (closed : engine.table.Closed library) (hosts : engine.table.Hosts twin)
  (nonempty : engine.after ≠ [])
  (nested : ∀ offset inner, .nested offset inner ∈ (engine.step library).1 →
    ReachesOwn library engine inner →
      ((inner.withTable twin).run library).1 = (inner.run library).1)

include closed hosts nonempty nested

/-- The same tokens come of a part if the nested engines that run the other table put out the
same. -/
theorem tokens_itemOf_withTable {rule : Rule} {found : Match} {part : Part}
    (fires : engine.firing? = some (rule, found)) (among : part ∈ Part.ofMatch rule.action found) :
    Item.tokens library [(engine.withTable twin).itemOf library part] =
      Item.tokens library [engine.itemOf library part] := by
  cases handed : part.action with
  | kind kind =>
    simp only [itemOf, handed]
    rfl
  | skip =>
    simp only [itemOf, handed]
    rfl
  | delegate delegate =>
    -- Both tables let the part be handed on, or neither does.
    by_cases allowed : engine.depth < engine.table.options.run.maxDelegateDepth
    · have allowedTwin : (engine.withTable twin).depth <
          (engine.withTable twin).table.options.run.maxDelegateDepth :=
        allowed.trans_eq hosts.depth.symm
      obtain ⟨member, matched, -⟩ := firing?_eq_some fires
      obtain ⟨-, said⟩ := Part.proper_of_mem_ofMatch (Pattern.matchHere?_within matched) among
      have put := mem_items_of_fires library fires among
      rw [itemOf_of_allowed library handed allowed] at put ⊢
      rw [itemOf_of_allowed library handed allowedTwin,
        delegated_withTable (closed.admits_of_mem_rules member) hosts
          (Part.mem_delegates said handed)]
      split
      -- A nested engine for the table itself runs the other one now, and any other one is the same.
      next own =>
        have reached : ReachesOwn library engine _ :=
          ReachesOwn.origin.nested nonempty fires among handed own allowed
        simp only [Item.tokens, nested _ _ put reached]
        rfl
      next => rfl
    · have allowedTwin : ¬(engine.withTable twin).depth <
          (engine.withTable twin).table.options.run.maxDelegateDepth :=
        fun less => allowed (less.trans_eq hosts.depth)
      simp only [itemOf, handed, if_neg allowed, if_neg allowedTwin]
      rfl

theorem tokens_step_withTable (suits : engine.Suits twin) :
    Item.tokens library ((engine.withTable twin).step library).1 =
      Item.tokens library (engine.step library).1 := by
  cases fires : engine.firing? with
  | none =>
    simp only [step, suits.firing, fires]
    rw [recover_withTable hosts.resets]
  | some firing =>
    obtain ⟨rule, found⟩ := firing
    rw [tokens_eq_flatMap, tokens_eq_flatMap library (engine.step library).1]
    simp only [step, suits.firing, fires, fire, List.flatMap_map]
    apply List.flatMap_congr
    intro part among
    exact tokens_itemOf_withTable closed hosts nonempty nested fires among

end

/-- If a table suits every engine that runs the table of a run, the run yields the same with it. -/
theorem yields_withTable (closed : origin.table.Closed library) (hosts : origin.table.Hosts twin)
    (suits : ∀ engine, ReachesOwn library origin engine → engine.after ≠ [] → engine.Suits twin) :
    (origin.withTable twin).yields library = origin.yields library := by
  induction origin using run_induction library with
  | drained engine drained =>
    have drainedTwin : (engine.withTable twin).after = [] := drained
    rw [yields_of_drained drained, yields_of_drained drainedTwin]
  | stepped engine nonempty ihRest ihNested =>
    have nonemptyTwin : (engine.withTable twin).after ≠ [] := nonempty
    have suitsHere : engine.Suits twin := suits engine .origin nonempty
    have step := step_withTable library suitsHere hosts.resets
    have rest : ((engine.step library).2.withTable twin).yields library =
        (engine.step library).2.yields library := by
      have table := @table_step engine library
      refine ihRest (table ▸ closed) (table ▸ hosts) ?_
      intro later reached
      exact suits later ((ReachesOwn.origin.step nonempty).trans reached)
    have tokens : Item.tokens library ((engine.withTable twin).step library).1 =
        Item.tokens library (engine.step library).1 := by
      refine tokens_step_withTable closed hosts nonempty ?_ suitsHere
      intro offset inner put reached
      -- What such an engine yields is the same by induction, so its tokens are.
      rw [run_tokens_eq, run_tokens_eq, ihNested offset inner put]
      · rwa [reached.table_eq]
      · rwa [reached.table_eq]
      · exact fun later further => suits later (reached.trans further)
    rw [yields_of_nonempty nonempty, yields_of_nonempty nonemptyTwin, yield, yield, tokens, step,
      rest]
    rfl

end Engine

/-- If another table suits every engine that runs the table of a tokenization, nothing is seen of it
when the other one takes its place. -/
theorem Tokens.equivalent_of_suits {library : Library} {table twin : RuleTable} {text : List Char}
    {state : String} (closed : table.Closed library) (hosts : table.Hosts twin)
    (suits : ∀ engine, Engine.ReachesOwn library (.start table text state 0) engine →
      engine.after ≠ [] → engine.Suits twin) :
    (table.tokenizeFrom library text state).Equivalent (twin.tokenizeFrom library text state) := by
  let origin : Engine := .start table text state 0
  have closed : origin.table.Closed library := closed
  have hosts : origin.table.Hosts twin := hosts
  exact equivalent_of_yields_eq (Engine.yields_withTable closed hosts suits)

end RuleLexer
