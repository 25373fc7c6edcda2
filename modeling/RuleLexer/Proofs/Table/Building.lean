import RuleLexer.Proofs.Table.Resolution

/-!
# Tables that can be built

A definition is built into a table unless something is wrong with it, and what can be wrong can be
said without resolving it: two states share a name, the root is missing, an inclusion is unknown or
leads back to its state, or a rule does not compile or does not fit. It does not matter whether a
state can be reached from the root.

## Main results

* `TableDef.build_eq_ok_iff`: the table of a definition holds the flattened states in order.
* `TableDef.build_iff_wellFormed`: a definition is built exactly if it is well-formed.
-/
namespace RuleLexer

/-- The first name that is repeated is missing exactly if there is none. -/
theorem firstRepeated?_eq_none_iff {seen names : List String} :
    firstRepeated? seen names = none ↔ names.Nodup ∧ ∀ name ∈ names, name ∉ seen := by
  induction names generalizing seen with
  | nil => simp [firstRepeated?]
  | cons name names ih =>
    rw [firstRepeated?, List.nodup_cons, List.forall_mem_cons]
    split
    next old => simp [old]
    next new =>
      rw [ih]
      simp only [List.mem_cons, not_or]
      constructor
      · rintro ⟨distinct, others⟩
        exact ⟨⟨fun member => (others name member).1 rfl, distinct⟩, new,
          fun other member => (others other member).2⟩
      · rintro ⟨⟨absent, distinct⟩, -, others⟩
        exact ⟨distinct, fun other member =>
          ⟨fun same => absent (same ▸ member), others other member⟩⟩

/-- Where names are different, a value is the first one with its name. -/
theorem find?_name_eq_some {α : Type} {name : α → String} {values : List α} {value : α}
    (distinct : (values.map name).Nodup) (member : value ∈ values) :
    values.find? (fun other => name other == name value) = some value := by
  induction values with
  | nil => cases member
  | cons first rest ih =>
    rw [List.map_cons, List.nodup_cons] at distinct
    rcases List.mem_cons.mp member with rfl | later
    · simp
    · have other : name first ≠ name value := by
        intro same
        exact distinct.1 (same ▸ List.mem_map_of_mem later)
      rw [List.find?_cons_of_neg (by simpa using other)]
      exact ih distinct.2 later

/-- Where names are different, a value is found at its place and nowhere else. -/
theorem findIdx?_name_eq_some_iff {α : Type} {name : α → String} {values : List α}
    (distinct : (values.map name).Nodup) {wanted : String} {place : Nat} :
    values.findIdx? (fun value => name value == wanted) = some place ↔
      ∃ value, values[place]? = some value ∧ name value = wanted := by
  induction values generalizing place with
  | nil => simp
  | cons first rest ih =>
    rw [List.map_cons, List.nodup_cons] at distinct
    rw [List.findIdx?_cons]
    by_cases here : name first = wanted
    · cases place with
      | zero => simp [here]
      | succ place =>
        simp only [here, beq_self_eq_true, if_true, Option.some.injEq, Nat.right_eq_add,
          List.getElem?_cons_succ]
        refine iff_of_false (by omega) ?_
        rintro ⟨value, found, same⟩
        exact distinct.1 (here.trans same.symm ▸ List.mem_map_of_mem (List.mem_of_getElem? found))
    · cases place with
      | zero => simp [here]
      | succ place => simp [here, ih distinct.2]

namespace BuildContext

variable {context : BuildContext} {state : StateDef}

/-- Where names are different, each state is found under its name. -/
theorem known_of_mem (distinct : (context.states.map StateDef.name).Nodup)
    (member : state ∈ context.states) : context.Known state :=
  find?_name_eq_some distinct member

theorem map_name_eq {definitions : List StateDef} {states : List State}
    (stand : List.Forall₂ context.Stands definitions states) :
    states.map State.name = definitions.map StateDef.name := by
  induction stand with
  | nil => rfl
  | cons here _ ih => rw [List.map_cons, List.map_cons, ih, here.1]

/-- At the place of a state of the definition there is the state that stands for it. -/
theorem exists_stands {definitions : List StateDef} {states : List State}
    (stand : List.Forall₂ context.Stands definitions states) {place : Nat}
    (found : definitions[place]? = some state) :
    ∃ rules, states[place]? = some ⟨state.name, rules⟩ ∧ context.Flattens state.entries rules := by
  induction stand generalizing place with
  | nil => cases found
  | @cons _ there _ _ here _ ih =>
    cases place with
    | zero =>
      cases found
      exact ⟨there.rules, by rw [← here.1]; rfl, here.2⟩
    | succ place => exact ih found

/-- If all states can be flattened, nothing is wrong in a context. -/
theorem resolvable_of_stands {states : List State}
    (stand : List.Forall₂ context.Stands context.states states) : context.Resolvable := by
  have flattens {name : String} {state : StateDef} (found : context.stateDef? name = some state) :
      ∃ rules, context.Flattens state.entries rules := by
    obtain ⟨place, there⟩ := List.mem_iff_getElem?.mp (mem_of_stateDef? found)
    obtain ⟨rules, -, flat⟩ := exists_stands stand there
    exact ⟨rules, flat⟩
  refine ⟨?_, ?_, ?_⟩
  · rintro outer inner ⟨state, found, member⟩
    obtain ⟨rules, flat⟩ := flattens found
    obtain ⟨included, _, known, -⟩ := flat.exists_included member
    exact hasState_iff.mpr ⟨included, known⟩
  · intro name cycle
    -- A cycle begins with an inclusion, so its first state is defined.
    obtain ⟨inner, ⟨state, found, -⟩, -⟩ := Relation.TransGen.head'_iff.mp cycle
    obtain ⟨rules, flat⟩ := flattens found
    exact flat.acyclic found cycle
  · intro state known source action next member
    obtain ⟨rules, flat⟩ := flattens known
    exact flat.exists_pattern member

theorem Stands.unique {first second : State} (stands : context.Stands state first)
    (again : context.Stands state second) : first = second := by
  obtain ⟨name, rules⟩ := first
  obtain ⟨other, others⟩ := second
  rw [State.mk.injEq]
  exact ⟨stands.1.trans again.1.symm, stands.2.unique again.2⟩

/-- There is only one list of states that stands for a definition. -/
theorem stands_unique {definitions : List StateDef} {states others : List State}
    (first : List.Forall₂ context.Stands definitions states)
    (second : List.Forall₂ context.Stands definitions others) : states = others :=
  List.right_unique_forall₂' (fun _ _ _ stands again => stands.unique again) first second

end BuildContext

namespace TableDef

variable {library : Library} {definition : TableDef} {table : RuleTable}

/-- What the states of a definition are resolved against. -/
def context (library : Library) (definition : TableDef) : BuildContext :=
  ⟨library, definition.options.patterns, definition.states⟩

/-- The checks and the resolution that a build is made of. -/
theorem build_eq_ok_iff_resolveAll :
    definition.build library = .ok table ↔
      (definition.states.map StateDef.name).Nodup ∧
      (definition.context library).hasState RuleTable.rootName ∧
      ∃ states, (definition.context library).resolveAll [] definition.states = .ok states ∧
        table = ⟨definition.name, definition.options, states⟩ := by
  have distinct : firstRepeated? [] (definition.states.map StateDef.name) = none ↔
      (definition.states.map StateDef.name).Nodup := by
    simp [firstRepeated?_eq_none_iff]
  rw [← distinct]
  unfold build
  cases firstRepeated? [] (definition.states.map StateDef.name) with
  | some name => simp [throw, throwThe, MonadExceptOf.throw, bind, Except.bind]
  | none =>
    change (if !(definition.context library).hasState RuleTable.rootName then _ else _) = _ ↔ _
    cases (definition.context library).hasState RuleTable.rootName with
    | false => simp [throw, throwThe, MonadExceptOf.throw, bind, Except.bind]
    | true =>
      change ((definition.context library).resolveAll [] definition.states >>= _) = _ ↔ _
      rw [bind_eq_ok_iff]
      simp [pure, Except.pure, eq_comm]

/-- The table of a definition holds its states in order, each with its flattened entries. -/
theorem build_eq_ok_iff :
    definition.build library = .ok table ↔
      (definition.states.map StateDef.name).Nodup ∧
      (definition.context library).hasState RuleTable.rootName ∧
      table.name = definition.name ∧ table.options = definition.options ∧
      List.Forall₂ (definition.context library).Stands definition.states table.states := by
  rw [build_eq_ok_iff_resolveAll]
  constructor
  · rintro ⟨distinct, root, states, resolved, rfl⟩
    have known : ∀ state ∈ definition.states, (definition.context library).Known state :=
      fun _ member => BuildContext.known_of_mem distinct member
    exact ⟨distinct, root, rfl, rfl,
      BuildContext.resolveAll_flattens (BuildContext.sound_nil _) known resolved⟩
  · rintro ⟨distinct, root, name, options, stand⟩
    have known : ∀ state ∈ definition.states, (definition.context library).Known state :=
      fun _ member => BuildContext.known_of_mem distinct member
    obtain ⟨states, resolved⟩ := (BuildContext.resolvable_of_stands stand).resolveAll_total known []
    have again := BuildContext.resolveAll_flattens (BuildContext.sound_nil _) known resolved
    rw [BuildContext.stands_unique again stand] at resolved
    exact ⟨distinct, root, _, resolved, by rw [← name, ← options]⟩

/-! ### Well-formed definitions -/

/-- One state includes another one by an entry of its own. -/
def Includes (definition : TableDef) (outer inner : String) : Prop :=
  ∃ state ∈ definition.states, state.name = outer ∧ .includeState inner ∈ state.entries

/-- A definition with nothing wrong in it. -/
structure WellFormed (library : Library) (definition : TableDef) : Prop where
  distinct : (definition.states.map StateDef.name).Nodup
  root : RuleTable.rootName ∈ definition.states.map StateDef.name
  included : ∀ state ∈ definition.states, ∀ target, .includeState target ∈ state.entries →
    target ∈ definition.states.map StateDef.name
  acyclic : ∀ name, ¬Relation.TransGen definition.Includes name name
  taken : ∀ state ∈ definition.states, ∀ source action next,
    .rule source action next ∈ state.entries →
      ∃ pattern, Pattern.compile definition.options.patterns source = .ok pattern ∧
        (definition.context library).Fits ⟨pattern, action, next⟩

theorem hasState_context_iff {name : String} :
    (definition.context library).hasState name ↔ name ∈ definition.states.map StateDef.name := by
  simp [BuildContext.hasState, BuildContext.stateDef?, context]

/-- Where names are different, it makes no difference whether states are found by their names. -/
theorem includes_context_iff (distinct : (definition.states.map StateDef.name).Nodup)
    {outer inner : String} :
    (definition.context library).Includes outer inner ↔ definition.Includes outer inner := by
  constructor
  · rintro ⟨state, found, member⟩
    exact ⟨state, BuildContext.mem_of_stateDef? found, BuildContext.name_of_stateDef? found, member⟩
  · rintro ⟨state, defined, rfl, member⟩
    exact ⟨state, BuildContext.known_of_mem distinct defined, member⟩

/-- Apart from the names of the states and the root, what makes a definition well-formed is that its
states can be resolved. -/
theorem wellFormed_iff :
    definition.WellFormed library ↔
      (definition.states.map StateDef.name).Nodup ∧
      (definition.context library).hasState RuleTable.rootName ∧
      (definition.context library).Resolvable := by
  constructor
  · intro wellFormed
    have distinct := wellFormed.distinct
    refine ⟨distinct, hasState_context_iff.mpr wellFormed.root, ?_, ?_, ?_⟩
    · intro outer inner includes
      obtain ⟨state, defined, -, member⟩ := (includes_context_iff distinct).mp includes
      exact hasState_context_iff.mpr (wellFormed.included state defined inner member)
    · intro name cycle
      exact wellFormed.acyclic name
        (Relation.TransGen.mono (fun _ _ => (includes_context_iff distinct).mp) _ _ cycle)
    · intro state known
      exact wellFormed.taken state (BuildContext.mem_of_stateDef? known)
  · rintro ⟨distinct, root, resolvable⟩
    refine ⟨distinct, hasState_context_iff.mp root, ?_, ?_, ?_⟩
    · intro state defined target member
      have includes : definition.Includes state.name target := ⟨state, defined, rfl, member⟩
      exact hasState_context_iff.mp
        (resolvable.included _ _ ((includes_context_iff distinct).mpr includes))
    · intro name cycle
      exact resolvable.acyclic name
        (Relation.TransGen.mono (fun _ _ => (includes_context_iff distinct).mpr) _ _ cycle)
    · intro state defined
      exact resolvable.taken state (BuildContext.known_of_mem distinct defined)

/-- A definition with nothing wrong in it is built. -/
theorem WellFormed.exists_table (wellFormed : definition.WellFormed library) :
    ∃ table, definition.build library = .ok table := by
  obtain ⟨distinct, root, resolvable⟩ := wellFormed_iff.mp wellFormed
  obtain ⟨states, resolved⟩ := resolvable.resolveAll_total
    (fun _ member => BuildContext.known_of_mem distinct member) []
  exact ⟨_, build_eq_ok_iff_resolveAll.mpr ⟨distinct, root, states, resolved, rfl⟩⟩

/-- Every rule of a table has been compiled from an entry of the definition. -/
theorem exists_entry_of_mem_rules (built : definition.build library = .ok table) {state : State}
    (known : state ∈ table.states) {rule : Rule} (member : rule ∈ state.rules) :
    ∃ origin ∈ definition.states, ∃ source,
      .rule source rule.action rule.next ∈ origin.entries ∧
      Pattern.compile definition.options.patterns source = .ok rule.pattern := by
  obtain ⟨-, -, -, -, stand⟩ := build_eq_ok_iff.mp built
  obtain ⟨place, found⟩ := List.mem_iff_getElem?.mp known
  obtain ⟨inside, -⟩ := List.getElem?_eq_some_iff.mp found
  have bound : place < definition.states.length := stand.length_eq ▸ inside
  obtain ⟨rules, again, flat⟩ := BuildContext.exists_stands stand (List.getElem?_eq_getElem bound)
  cases found.symm.trans again
  exact flat.exists_entry_of_mem (fun entry here => ⟨_, List.getElem_mem bound, here⟩) member

/-- **Building.** A definition is built into a table exactly if no two of its states share a name,
one of them is the root, each inclusion names a state and none leads back to where it stands, and
each rule of each state compiles and fits. The table then has the states of the definition in their
order, each is found under its name and at its place and nowhere else, and its rules are the
entries in order, with the flattened entries of a state wherever it is included. -/
theorem build_iff_wellFormed (library : Library) (definition : TableDef) :
    ((∃ table, definition.build library = .ok table) ↔ definition.WellFormed library) ∧
    ∀ table, definition.build library = .ok table →
      table.name = definition.name ∧ table.options = definition.options ∧
      table.states.length = definition.states.length ∧
      (∀ name id, table.stateId? name = some id ↔
        ∃ state, definition.states[id]? = some state ∧ state.name = name) ∧
      ∀ (id : Nat) (state : StateDef), definition.states[id]? = some state →
        ∃ rules, table.states[id]? = some ⟨state.name, rules⟩ ∧
          (definition.context library).Flattens state.entries rules := by
  constructor
  · constructor
    · rintro ⟨table, built⟩
      obtain ⟨distinct, root, -, -, stand⟩ := build_eq_ok_iff.mp built
      exact wellFormed_iff.mpr ⟨distinct, root, BuildContext.resolvable_of_stands stand⟩
    · exact WellFormed.exists_table
  · intro table built
    obtain ⟨distinct, -, name, options, stand⟩ := build_eq_ok_iff.mp built
    have names : table.states.map State.name = definition.states.map StateDef.name :=
      BuildContext.map_name_eq stand
    refine ⟨name, options, stand.length_eq.symm, ?_, ?_⟩
    · intro name id
      rw [RuleTable.stateId?, findIdx?_name_eq_some_iff (names ▸ distinct)]
      have place := congrArg (fun names => names[id]? = some name) names
      simpa only [List.getElem?_map, Option.map_eq_some_iff, eq_iff_iff] using place
    · intro id state found
      exact BuildContext.exists_stands stand found

end TableDef

end RuleLexer
