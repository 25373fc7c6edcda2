import RuleLexer.Proofs.Regex.Consumption
import RuleLexer.Proofs.Table.Closed

/-!
# Equal rules

Rules are compared by the text of their pattern, their action and their transition; what the pattern
was compiled to is not looked at. In tables that have been built with the same options this is
enough: equal texts are compiled to the same pattern, so rules that compare equal are the same.

Rules refer to states by their names, so they do not depend on the order of the states either. A
table whose states are defined in another order has them under other numbers, and resolution meets
them in another order, but what each of them is flattened to stays the same.

## Main results

* `rules_eq_of_beq`, `prefix_of_isPrefixOf`: in tables that have been built, comparing rules means
  what it says.
* `TableDef.exists_renumbers_of_perm`: the states of a definition may be defined in any order.
-/
namespace RuleLexer

theorem Rule.beq_eq_true_iff {rule twin : Rule} :
    rule == twin ↔ rule.pattern.source = twin.pattern.source ∧ rule.action = twin.action ∧
      rule.next = twin.next := by
  change (rule.pattern.source == twin.pattern.source && rule.action == twin.action &&
    rule.next == twin.next) = true ↔ _
  simp only [Bool.and_eq_true, beq_iff_eq, and_assoc]

instance : ReflBEq Rule := ⟨Rule.beq_eq_true_iff.mpr ⟨rfl, rfl, rfl⟩⟩

namespace RuleTable

variable {library other : Library} {table twin : RuleTable} {rule twinRule : Rule}

/-- A pattern that a table holds is what its text is read as. -/
theorem Admits.compile_source (admits : table.Admits library rule) :
    Pattern.compile table.options.patterns rule.pattern.source = .ok rule.pattern := by
  obtain ⟨source, compiled⟩ := admits.compiled
  obtain ⟨-, -, -, -, -, same⟩ := Pattern.compile_eq_ok compiled
  rwa [same]

/-- Under the same options, patterns with the same text are the same. -/
theorem Admits.pattern_eq (admits : table.Admits library rule)
    (admitsTwin : twin.Admits other twinRule) (options : twin.options = table.options)
    (source : twinRule.pattern.source = rule.pattern.source) : twinRule.pattern = rule.pattern := by
  have read := admits.compile_source
  have readTwin := admitsTwin.compile_source
  rw [options, source, read] at readTwin
  exact (Except.ok.inj readTwin).symm

/-- Under the same options, rules that compare equal are the same. -/
theorem Admits.eq_of_beq (admits : table.Admits library rule)
    (admitsTwin : twin.Admits other twinRule) (options : twin.options = table.options)
    (equal : rule == twinRule) : rule = twinRule := by
  obtain ⟨source, action, next⟩ := Rule.beq_eq_true_iff.mp equal
  have pattern := admits.pattern_eq admitsTwin options source.symm
  obtain ⟨_, _, _⟩ := rule
  obtain ⟨_, _, _⟩ := twinRule
  rw [Rule.mk.injEq]
  exact ⟨pattern.symm, action, next⟩

/-! ### Lists of rules -/

section

variable {rules others : List Rule} (inside : ∀ rule ∈ rules, table.Admits library rule)
  (insideTwin : ∀ rule ∈ others, twin.Admits other rule) (options : twin.options = table.options)

include inside insideTwin options

theorem prefix_of_isPrefixOf_of_admits (equal : rules.isPrefixOf others) : rules <+: others := by
  induction rules generalizing others with
  | nil => exact List.nil_prefix
  | cons rule rules ih =>
    cases others with
    | nil => cases equal
    | cons twinRule others =>
      rw [List.forall_mem_cons] at inside insideTwin
      rw [List.isPrefixOf_cons_cons, Bool.and_eq_true] at equal
      rw [inside.1.eq_of_beq insideTwin.1 options equal.1, List.prefix_cons_inj]
      exact ih inside.2 insideTwin.2 equal.2

theorem eq_of_beq_of_admits (equal : rules == others) : rules = others := by
  induction rules generalizing others with
  | nil => cases others with
    | nil => rfl
    | cons => cases equal
  | cons rule rules ih =>
    cases others with
    | nil => cases equal
    | cons twinRule others =>
      rw [List.forall_mem_cons] at inside insideTwin
      rw [List.cons_beq_cons, Bool.and_eq_true] at equal
      rw [inside.1.eq_of_beq insideTwin.1 options equal.1, ih inside.2 insideTwin.2 equal.2]

end

/-- The rules of two states of closed tables are the same if they compare equal. -/
theorem rules_eq_of_beq (closed : table.Closed library) (closedTwin : twin.Closed other)
    (options : twin.options = table.options) {name : String}
    (equal : table.rules name == twin.rules name) : table.rules name = twin.rules name :=
  eq_of_beq_of_admits (fun _ member => closed.admits_of_mem_rules member)
    (fun _ member => closedTwin.admits_of_mem_rules member) options equal

/-- The rules of a state of a closed table come first in a state of another one if they compare
equal to what comes first there. -/
theorem prefix_of_isPrefixOf (closed : table.Closed library) (closedTwin : twin.Closed other)
    (options : twin.options = table.options) {name : String}
    (equal : (table.rules name).isPrefixOf (twin.rules name)) :
    table.rules name <+: twin.rules name :=
  prefix_of_isPrefixOf_of_admits (fun _ member => closed.admits_of_mem_rules member)
    (fun _ member => closedTwin.admits_of_mem_rules member) options equal

/-! ### The order of states -/

/-- Two tables have the same options, the same states, and rules in each of them that compare equal.
The states may have other numbers. -/
structure Renumbers (table twin : RuleTable) : Prop where
  options : twin.options = table.options
  states : ∀ name, twin.hasState name = table.hasState name
  rules : ∀ name, table.rules name == twin.rules name

end RuleTable

/-- Values with different names are found by their names, in whatever order they stand. -/
theorem find?_name_eq_of_perm {α : Type} {name : α → String} {values others : List α}
    (distinct : (values.map name).Nodup) (permuted : others.Perm values) (wanted : String) :
    others.find? (fun value => name value == wanted) =
      values.find? (fun value => name value == wanted) := by
  have distinctOthers : (others.map name).Nodup := (permuted.map name).nodup_iff.mpr distinct
  cases found : values.find? (fun value => name value == wanted) with
  | none =>
    rw [List.find?_eq_none] at found ⊢
    exact fun value member => found value (permuted.mem_iff.mp member)
  | some value =>
    have named : name value = wanted := by simpa using List.find?_some found
    subst named
    exact find?_name_eq_some distinctOthers (permuted.mem_iff.mpr (List.mem_of_find?_eq_some found))

namespace BuildContext

variable {context other : BuildContext} {rule : Rule} {entries : List RuleDef} {rules : List Rule}

/-- Entries stand for the same rules in every context that finds the same states. -/
theorem Flattens.of_stateDef?_eq (flat : context.Flattens entries rules)
    (library : other.library = context.library) (options : other.options = context.options)
    (same : ∀ name, other.stateDef? name = context.stateDef? name) :
    other.Flattens entries rules := by
  have hasState (name : String) (known : context.hasState name) : other.hasState name := by
    rwa [BuildContext.hasState, same]
  induction flat with
  | nil => exact .nil
  | rule compiled fits _ ih => exact .rule (options ▸ compiled) (fits.mono library hasState) ih
  | includeState found _ _ ihHead ihTail => exact .includeState ((same _).trans found) ihHead ihTail

end BuildContext

namespace TableDef

variable {library : Library} {definition : TableDef} {table : RuleTable}

/-- If a definition is built, it is built with its states in any other order as well, and the two
tables differ in the numbers of their states only. -/
theorem exists_renumbers_of_perm {states : List StateDef} (permuted : states.Perm definition.states)
    (built : definition.build library = .ok table) :
    ∃ twin, { definition with states }.build library = .ok twin ∧ table.Renumbers twin := by
  obtain ⟨distinct, root, name, options, stand⟩ := build_eq_ok_iff.mp built
  let reordered : TableDef := { definition with states }
  have same (wanted : String) : (reordered.context library).stateDef? wanted =
      (definition.context library).stateDef? wanted :=
    find?_name_eq_of_perm distinct permuted wanted
  -- The flattened states are put into the new order along with those that they stand for.
  obtain ⟨twinStates, standTwin, permutedStates⟩ := List.perm_comp_forall₂ permuted stand
  let twin : RuleTable := ⟨definition.name, definition.options, twinStates⟩
  have builtTwin : reordered.build library = .ok twin := by
    refine build_eq_ok_iff.mpr ⟨(permuted.map _).nodup_iff.mpr distinct, ?_, rfl, rfl, ?_⟩
    · rwa [BuildContext.hasState, same]
    · exact standTwin.imp fun _ _ stands => ⟨stands.1, stands.2.of_stateDef?_eq rfl rfl same⟩
  -- What is found under a name is the very same state.
  have distinctStates : (table.states.map State.name).Nodup := by
    rwa [BuildContext.map_name_eq stand]
  have found (wanted : String) : twin.state? wanted = table.state? wanted :=
    find?_name_eq_of_perm distinctStates permutedStates wanted
  refine ⟨twin, builtTwin, options.symm, ?_, ?_⟩
  · intro wanted
    rw [RuleTable.hasState, RuleTable.hasState, found]
  · intro wanted
    rw [RuleTable.rules, RuleTable.rules, found]
    exact BEq.rfl

end TableDef

end RuleLexer
