import RuleLexer.Proofs.Table.Building

/-!
# Closed tables

A rule names states, and tables by their places in a library. It is checked where it is written,
against the states of the definition and the tables of that time, but it runs in a table: spliced
into other states, with other options for running it, and with a library that has grown since. A
table is closed if whatever its rules name is there when it runs.

## Main results

* `RuleTable.BuiltFrom.closed`: a table that has been built is closed, whatever options it runs
  with.
* `Library.Built.closed`: so are all tables of a library that has been built one after the other.
-/
namespace RuleLexer

namespace DelegateTarget

variable {library later : Library} {running table : RuleTable} {target : DelegateTarget}

/-- The table of a target is the running one or one of the library. -/
theorem mem_of_table? (found : target.table? library running = some table) :
    table ∈ running :: library := by
  cases target with
  | this =>
    cases found
    exact List.mem_cons_self
  | entry position => exact List.mem_cons_of_mem _ (List.mem_of_getElem? found)

/-- A target stays the same when the library grows. -/
theorem table?_mono (longer : library <+: later)
    (found : target.table? library running = some table) :
    target.table? later running = some table := by
  cases target with
  | this => exact found
  | entry position =>
    obtain ⟨inside, rfl⟩ := List.getElem?_eq_some_iff.mp found
    exact List.prefix_iff_getElem?.mp longer position inside

end DelegateTarget

namespace RuleTable

variable {library later : Library} {table : RuleTable} {name : String} {rule : Rule}

/-- A name has a number, and the state with this number is the one that is found under the name. -/
def Indexes (table : RuleTable) (name : String) : Prop :=
  ∃ id state, table.stateId? name = some id ∧ table.states[id]? = some state ∧ state.name = name ∧
    table.state? name = some state

theorem hasState_iff_mem : table.hasState name ↔ name ∈ table.states.map State.name := by
  simp [hasState, state?]

/-- All states that a table has can be used by their numbers. -/
theorem indexes_of_hasState (known : table.hasState name) : table.Indexes name := by
  obtain ⟨state, found⟩ := Option.isSome_iff_exists.mp known
  have named : state.name = name := by simpa using List.find?_some found
  have numbered := found
  rw [state?, List.find?_eq_bind_findIdx?_getElem?] at numbered
  obtain ⟨id, place, there⟩ := Option.bind_eq_some_iff.mp numbered
  exact ⟨id, state, place, there, named, found⟩

/-- A compiled rule that can be run in a table: it does not idle, its actions are as many as its
groups, and whatever it names is there. -/
structure Admits (library : Library) (table : RuleTable) (rule : Rule) : Prop where
  compiled : ∃ source, Pattern.compile table.options.patterns source = .ok rule.pattern
  moves : ¬(rule.pattern.canMatchEmpty ∧ rule.next = .stay)
  grouped : ∀ actions, rule.action = .byGroups actions → actions.length = rule.pattern.groupCount
  delegates : ∀ delegate ∈ rule.action.delegates,
    ∃ target, delegate.target.table? library table = some target ∧
      ∀ start ∈ delegate.state, target.hasState start
  targets : ∀ target ∈ rule.next.targets, table.hasState target

/-- Whatever the rules of a table name is there, and so is its root. -/
structure Closed (library : Library) (table : RuleTable) : Prop where
  root : table.hasState rootName
  rules : ∀ state ∈ table.states, ∀ rule ∈ state.rules, table.Admits library rule

/-- The rules of a name are those of a state. -/
theorem exists_state_of_mem_rules (member : rule ∈ table.rules name) :
    ∃ state ∈ table.states, rule ∈ state.rules := by
  unfold rules at member
  cases found : table.state? name with
  | none =>
    rw [found] at member
    cases member
  | some state =>
    rw [found] at member
    exact ⟨state, List.mem_of_find?_eq_some found, member⟩

theorem Closed.admits_of_mem_rules (closed : table.Closed library)
    (member : rule ∈ table.rules name) : table.Admits library rule := by
  obtain ⟨state, known, inside⟩ := exists_state_of_mem_rules member
  exact closed.rules state known rule inside

theorem Admits.mono (admits : table.Admits library rule) (longer : library <+: later) :
    table.Admits later rule := by
  refine ⟨admits.compiled, admits.moves, admits.grouped, ?_, admits.targets⟩
  intro delegate member
  obtain ⟨target, there, starts⟩ := admits.delegates delegate member
  exact ⟨target, DelegateTarget.table?_mono longer there, starts⟩

/-- What is closed in a library is closed in every library that goes on from it. -/
theorem Closed.mono (closed : table.Closed library) (longer : library <+: later) :
    table.Closed later :=
  ⟨closed.root, fun state member rule inside => (closed.rules state member rule inside).mono longer⟩

/-- Other options for running a table change nothing about what its rules name. -/
theorem Closed.withRunOptions (closed : table.Closed library) (run : RunOptions) :
    (table.withRunOptions run).Closed library := by
  refine ⟨closed.root, ?_⟩
  intro state member rule inside
  obtain ⟨compiled, moves, grouped, delegates, targets⟩ := closed.rules state member rule inside
  refine ⟨compiled, moves, grouped, ?_, targets⟩
  intro delegate among
  obtain ⟨target, there, starts⟩ := delegates delegate among
  cases named : delegate.target with
  | this =>
    rw [named] at there
    cases there
    exact ⟨_, rfl, starts⟩
  | entry position =>
    rw [named] at there
    exact ⟨target, there, starts⟩

/-- A table has been built from a definition, at a time when no more tables of a library were there
than some front part of it, and may have been given other options for running it since. -/
def BuiltFrom (library : Library) (table : RuleTable) : Prop :=
  ∃ (earlier : Library) (definition : TableDef) (built : RuleTable) (run : RunOptions),
    earlier <+: library ∧ definition.build earlier = .ok built ∧ table = built.withRunOptions run

theorem builtFrom_of_build {definition : TableDef} (done : definition.build library = .ok table) :
    table.BuiltFrom library :=
  ⟨library, definition, table, table.options.run, List.prefix_rfl, done, rfl⟩

end RuleTable

namespace BuildContext

variable {context : BuildContext} {table : RuleTable} {rule : Rule}

/-- A rule that fits a context can be run in a table with the states of the context. -/
theorem Fits.admits (fits : context.Fits rule)
    (compiled : ∃ source, Pattern.compile table.options.patterns source = .ok rule.pattern)
    (same : ∀ name, context.hasState name → table.hasState name) :
    table.Admits context.library rule := by
  refine ⟨compiled, fits.moves, fits.grouped, ?_, ?_⟩
  · intro delegate member
    have known := fits.delegates delegate member
    unfold Knows at known
    cases named : delegate.target with
    | this =>
      simp only [named] at known
      exact ⟨table, rfl, fun start chosen => same start (known start chosen)⟩
    | entry position =>
      simp only [named] at known
      exact known
  · intro target member
    exact same target (fits.targets target member)

end BuildContext

namespace RuleTable

variable {library : Library} {table : RuleTable} {definition : TableDef}

theorem closed_of_build (built : definition.build library = .ok table) : table.Closed library := by
  obtain ⟨-, root, -, options, stand⟩ := TableDef.build_eq_ok_iff.mp built
  have names := BuildContext.map_name_eq stand
  have same (name : String) (known : (definition.context library).hasState name) :
      table.hasState name := by
    rw [hasState_iff_mem, names]
    exact TableDef.hasState_context_iff.mp known
  refine ⟨same _ root, ?_⟩
  intro state member rule inside
  obtain ⟨place, there, rfl⟩ := List.mem_iff_getElem.mp member
  have flat := (stand.get (stand.length_eq ▸ there) there).2
  obtain ⟨compiled, fits⟩ := flat.fits_of_mem inside
  exact fits.admits (options ▸ compiled) same

/-- A table that has been built is closed, whatever options it runs with. -/
theorem BuiltFrom.closed (built : table.BuiltFrom library) : table.Closed library := by
  obtain ⟨earlier, definition, first, run, longer, done, rfl⟩ := built
  exact ((closed_of_build done).mono longer).withRunOptions run

end RuleTable

/-- A library of tables that have been built one after the other, each with those before it. -/
inductive Library.Built : Library → Prop
  | nil : Built []
  | snoc {library : Library} {table : RuleTable} (built : Built library)
      (last : table.BuiltFrom library) : Built (library ++ [table])

/-- All tables of a library that has been built are closed in it. -/
theorem Library.Built.closed {library : Library} (built : library.Built) {table : RuleTable}
    (member : table ∈ library) : table.Closed library := by
  induction built with
  | nil => cases member
  | snoc _ last ih =>
    rcases List.mem_append.mp member with earlier | same
    · exact (ih earlier).mono (List.prefix_append _ _)
    · cases List.mem_singleton.mp same
      exact last.closed.mono (List.prefix_append _ _)

end RuleLexer
