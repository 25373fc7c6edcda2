import RuleLexer.Proofs.Engine.Exchange
import RuleLexer.Proofs.Table.Equality

/-!
# Tables with equal rules and with further rules

What an engine asks of its table is which rule fires, and this depends on the rules of the state on
top of the stack alone. If another table has equal rules in every state, the same rule fires with
it, whatever the numbers of the states are. If it has further rules in a state, they come after those
that are there already and are tried only where none of these fires, so that they make no difference
as long as there always is one that does.

Rules that compare equal are the same in tables that have been built, so both results are about
rules as they are compared, by the text of their patterns.

## Main results

* `tokenizeFrom_renumbered`: nothing is seen of the order in which states are defined.
* `tokenizeFrom_extended`: where nothing has to be recovered from, nothing is seen of further rules.
-/
namespace RuleLexer

variable {library : Library} {table twin : RuleTable}

/-! ### The same rules -/

theorem RuleTable.Renumbers.hosts (same : table.Renumbers twin) : table.Hosts twin :=
  ⟨fun name known => (same.states name).trans known, by rw [same.options], by rw [same.options]⟩

/-- A table with equal rules suits every engine. -/
theorem RuleTable.Renumbers.suits (same : table.Renumbers twin) (closed : table.Closed library)
    (closedTwin : twin.Closed library) {engine : Engine} (runs : engine.table = table) :
    engine.Suits twin := by
  subst runs
  -- Equal rules are the same rules, so there is nothing about the next step that could differ.
  have rules : (engine.withTable twin).rules = engine.rules :=
    (RuleTable.rules_eq_of_beq closed closedTwin same.options (same.rules engine.stack.top)).symm
  constructor
  · rw [Engine.firing?, rules]
    rfl
  · intro rule found _
    rw [same.options]

/-- **The order of states.** If two tables that have been built have the same options, the same
states and in each of them rules that compare equal, then from the same state and over the same text
every call gives the same token and leaves the same cursor and the same stack. Such tables come
about when the states of a definition that is built are put into any other order: it is built again,
and the two tables differ in no more than the numbers of their states. -/
theorem tokenizeFrom_renumbered (library : Library) :
    (∀ table twin : RuleTable, table.BuiltFrom library → twin.BuiltFrom library →
      table.Renumbers twin → ∀ (text : List Char) (state : String),
        (table.tokenizeFrom library text state).Equivalent
          (twin.tokenizeFrom library text state)) ∧
    ∀ (definition : TableDef) (states : List StateDef) (table : RuleTable),
      states.Perm definition.states → definition.build library = .ok table →
        ∃ twin, { definition with states }.build library = .ok twin ∧ table.Renumbers twin := by
  constructor
  · intro table twin built builtTwin same text state
    apply Tokens.equivalent_of_suits built.closed same.hosts
    intro engine reached _
    exact same.suits built.closed builtTwin.closed reached.table_eq
  · intro definition states table permuted built
    exact TableDef.exists_renumbers_of_perm permuted built

/-- Comments are defined before the root or after it, and the root has another number then. -/
theorem tokenizeFrom_renumbered_of_comments :
    let root : StateDef := ⟨"root", [.staying "[a-z]+" (.token .name),
      .rule "/\\*" (.token .comment) (.push "comment")]⟩
    let comment : StateDef := ⟨"comment", [.rule "\\*/" (.token .comment) (.pop 1),
      .staying "[^*]+" (.token .comment)]⟩
    let text := "a/*b*/c".toList
    ∃ table twin, TableDef.build [] ⟨"code", {}, [root, comment]⟩ = .ok table ∧
      TableDef.build [] ⟨"code", {}, [comment, root]⟩ = .ok twin ∧
      table.stateId? "root" = some 0 ∧ twin.stateId? "root" = some 1 ∧ table.Renumbers twin ∧
      (table.tokenizeFrom [] text "root").Equivalent (twin.tokenizeFrom [] text "root") := by
  intro root comment text
  obtain ⟨renumbered, reordered⟩ := tokenizeFrom_renumbered []
  obtain ⟨table, built, first⟩ : ∃ table,
      TableDef.build [] ⟨"code", {}, [root, comment]⟩ = .ok table ∧
      table.stateId? "root" = some 0 :=
    ⟨_, rfl, by decide +kernel⟩
  obtain ⟨moved, builtMoved, second⟩ : ∃ twin,
      TableDef.build [] ⟨"code", {}, [comment, root]⟩ = .ok twin ∧ twin.stateId? "root" = some 1 :=
    ⟨_, rfl, by decide +kernel⟩
  obtain ⟨twin, builtTwin, same⟩ :=
    reordered ⟨"code", {}, [root, comment]⟩ [comment, root] table (.swap _ _ _) built
  cases builtMoved.symm.trans builtTwin
  exact ⟨table, moved, built, builtMoved, first, second, same,
    renumbered table moved (RuleTable.builtFrom_of_build built)
      (RuleTable.builtFrom_of_build builtMoved) same text "root"⟩

/-! ### Further rules -/

/-- Another table has the same options, all states of a table, and in each of them rules that begin
with some that compare equal to its own. -/
structure RuleTable.ExtendedBy (table twin : RuleTable) : Prop where
  options : twin.options = table.options
  states : ∀ name, table.hasState name → twin.hasState name
  rules : ∀ name, table.hasState name → (table.rules name).isPrefixOf (twin.rules name)

namespace RuleTable.ExtendedBy

/-- It is enough to look at the states that the table has. -/
theorem of_forall_mem (options : twin.options = table.options)
    (each : ∀ name ∈ table.states.map State.name,
      twin.hasState name ∧ (table.rules name).isPrefixOf (twin.rules name)) :
    table.ExtendedBy twin := by
  simp only [← hasState_iff_mem] at each
  exact ⟨options, fun name known => (each name known).1, fun name known => (each name known).2⟩

theorem hosts (extended : table.ExtendedBy twin) : table.Hosts twin :=
  ⟨extended.states, by rw [extended.options], by rw [extended.options]⟩

/-- The rules of a name come first. A name that no state has stands for no rules. -/
theorem prefix_rules (extended : table.ExtendedBy twin) (closed : table.Closed library)
    (closedTwin : twin.Closed library) (name : String) : table.rules name <+: twin.rules name := by
  by_cases known : table.hasState name
  · exact prefix_of_isPrefixOf closed closedTwin extended.options (extended.rules name known)
  · have missing : table.state? name = none := by
      simpa [hasState] using known
    simp [RuleTable.rules, missing]

/-- A table with further rules suits an engine for which a rule fires already. -/
theorem suits (extended : table.ExtendedBy twin) (closed : table.Closed library)
    (closedTwin : twin.Closed library) {engine : Engine} (runs : engine.table = table)
    (fires : engine.firing? ≠ none) : engine.Suits twin := by
  subst runs
  obtain ⟨more, rules⟩ := extended.prefix_rules closed closedTwin engine.stack.top
  obtain ⟨firing, fires⟩ := Option.ne_none_iff_exists'.mp fires
  constructor
  · have rules : (engine.withTable twin).rules = engine.rules ++ more := rules.symm
    rw [fires, Engine.firing?, rules, List.findSome?_append]
    -- The further rules are tried where the others have failed, which is not here.
    change engine.firing?.or _ = _
    rw [fires, Option.some_or]
  · intro rule found _
    rw [extended.options]

end RuleTable.ExtendedBy

/-- **Further rules.** Let a table that has been built be extended: the options are the same, states
may have been added, and in the states that were there rules may have been added behind those that
compare equal to the old ones. If over some text no engine that runs the old table recovers, be it
the first one or one to which text is handed for this table, then every call gives the same token
with the extended table and leaves the same cursor and the same stack. -/
theorem tokenizeFrom_extended {text : List Char} {state : String} (built : table.BuiltFrom library)
    (builtTwin : twin.BuiltFrom library) (extended : table.ExtendedBy twin)
    (fires : ∀ engine, Engine.ReachesOwn library (.start table text state 0) engine →
      engine.after ≠ [] → engine.firing? ≠ none) :
    (table.tokenizeFrom library text state).Equivalent (twin.tokenizeFrom library text state) := by
  apply Tokens.equivalent_of_suits built.closed extended.hosts
  intro engine reached nonempty
  exact extended.suits built.closed builtTwin.closed reached.table_eq
    (fires engine reached nonempty)

/-- Words are handed to the table itself letter by letter. It is given a state for strings, a rule
that leads there and a rule for whatever else stands where a letter should. -/
theorem tokenizeFrom_extended_of_letters :
    let word : RuleDef := .staying "[a-z]+" (.delegate ⟨.this, some "letter"⟩)
    let letter : RuleDef := .staying "[a-z]" (.token .name)
    let quote (next : Transition) : RuleDef := .rule "'" (.token .string) next
    let words : TableDef := ⟨"words", {}, [⟨"root", [word]⟩, ⟨"letter", [letter]⟩]⟩
    let strings : TableDef := ⟨"strings", {}, [⟨"string", [quote (.pop 1)]⟩,
      ⟨"letter", [letter, .staying "." (.token .text)]⟩, ⟨"root", [word, quote (.push "string")]⟩]⟩
    ∃ table twin, words.build [] = .ok table ∧ strings.build [] = .ok twin ∧
      table.ExtendedBy twin ∧
      (∀ engine, Engine.ReachesOwn [] (.start table "ab".toList "root" 0) engine →
        engine.after ≠ [] → engine.firing? ≠ none) ∧
      (table.tokenizeFrom [] "ab".toList "root").Equivalent
        (twin.tokenizeFrom [] "ab".toList "root") := by
  intro word letter quote words strings
  obtain ⟨table, twin, built, builtTwin, options, compared, checked⟩ : ∃ table twin,
      words.build [] = .ok table ∧ strings.build [] = .ok twin ∧ twin.options = table.options ∧
      (∀ name ∈ table.states.map State.name,
        twin.hasState name ∧ (table.rules name).isPrefixOf (twin.rules name)) ∧
      (Engine.start table "ab".toList "root" 0).holdsWithin []
        (fun engine => engine.firing?.isSome) 10 :=
    ⟨_, _, rfl, rfl, rfl, by decide +kernel, by decide +kernel⟩
  have extended := RuleTable.ExtendedBy.of_forall_mem options compared
  have fires : ∀ engine, Engine.ReachesOwn [] (.start table "ab".toList "root" 0) engine →
      engine.after ≠ [] → engine.firing? ≠ none := by
    intro engine reached nonempty
    exact Option.isSome_iff_ne_none.mp (reached.reaches.holds checked nonempty)
  exact ⟨table, twin, built, builtTwin, extended, fires,
    tokenizeFrom_extended (RuleTable.builtFrom_of_build built)
      (RuleTable.builtFrom_of_build builtTwin) extended fires⟩

end RuleLexer
