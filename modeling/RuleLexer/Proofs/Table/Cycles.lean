import Mathlib.Data.List.Chain
import Mathlib.Data.List.Nodup
import RuleLexer.Proofs.Table.Splicing

/-!
# Cycles of inclusions

A build that fails for a cycle shows one that is there. The path of a resolution holds the states
that lead to the cycle as well, so only what comes after the first visit is shown: a path goes from
each state to one that it includes and visits none twice, so this is a way from a state back to it.

Resolution comes to a result on every graph of inclusions. The recursion takes no smaller input when
it follows an inclusion, but it puts the state on the path, and there are only so many states.
`Resolves` is this recursion without any bound on its depth, so that a bound cannot be what ends it.

## Main results

* `BuildContext.existsUnique_resolves`: the recursion comes to one result.
* `TableDef.build_finds_cycles`: a cycle that a build shows is there, and all states are resolved.
-/
namespace RuleLexer

/-- Names that lead round: from each of them to the next, and from the last one, which is the first
one again, nowhere else. -/
structure IsCycle (follows : String → String → Prop) (names : List String) : Prop where
  length : 2 ≤ names.length
  returns : names.head? = names.getLast?
  distinct : names.dropLast.Nodup
  linked : names.IsChain follows

theorem IsCycle.mono {follows others : String → String → Prop} {names : List String}
    (cycle : IsCycle follows names)
    (among : ∀ outer inner, follows outer inner → others outer inner) : IsCycle others names :=
  ⟨cycle.length, cycle.returns, cycle.distinct, cycle.linked.imp among⟩

namespace BuildContext

variable {context : BuildContext} {entries : List RuleDef} {resolved : Resolved}
  {state : StateDef} {name target : String} {path : List String} {room : Nat} {error : TableError}
  {resolve : Resolved → StateDef → Except TableError (List Rule × Resolved)}

/-! ### The cycle that is shown -/

/-- A path visits no state twice and goes from each state to one that it includes, and so on to the
state that it has come to. -/
structure Trail (context : BuildContext) (path : List String) (name : String) : Prop where
  distinct : path.Nodup
  linked : (path ++ [name]).IsChain context.Includes

namespace Trail

theorem nil (name : String) : context.Trail [] name := ⟨List.nodup_nil, .singleton name⟩

theorem snoc (trail : context.Trail path name) (fresh : name ∉ path)
    (includes : context.Includes name target) : context.Trail (path ++ [name]) target := by
  constructor
  · rw [← List.concat_eq_append]
    exact trail.distinct.concat fresh
  · rw [List.append_assoc]
    exact List.isChain_append_cons_cons.mpr ⟨trail.linked, includes, .singleton target⟩

/-- What a path has visited since it was here is a cycle. -/
theorem isCycle (trail : context.Trail path name) (again : name ∈ path) :
    IsCycle context.Includes (path.dropWhile (· != name) ++ [name]) := by
  obtain ⟨front, back, rfl, first⟩ := List.eq_append_cons_of_mem again
  have cut : (front ++ name :: back).dropWhile (· != name) = name :: back := by
    rw [List.dropWhile_append_of_pos]
    · simp
    · intro earlier member
      simpa using fun same : earlier = name => first (same ▸ member)
  rw [cut]
  refine ⟨by simp, ?_, ?_, ?_⟩
  · rw [List.getLast?_concat]
    rfl
  · rw [List.dropLast_concat]
    exact (List.nodup_append.mp trail.distinct).2.1
  · have linked := trail.linked
    rw [List.append_assoc] at linked
    exact linked.right_of_append

end Trail

/-- A state that fails for a cycle, after a path has come to it, shows one. -/
theorem Breaks.isCycle {cycle : List String} (breaks : context.Breaks path state error)
    (known : context.Known state) (trail : context.Trail path state.name)
    (circular : error = .circularInclude cycle) : IsCycle context.Includes cycle := by
  induction breaks with
  | again again =>
    cases circular
    exact trail.isCycle again
  | entry _ _ _ refused =>
    -- The error of an entry names a state, and that of a cycle does not.
    have named := refused.names.1
    rw [circular] at named
    cases named
  | @inside path state included _ _ target _ _ fresh split _ found _ ih =>
    have includes : context.Includes state.name target := ⟨state, known, by simp [split]⟩
    rw [← name_of_stateDef? found] at includes
    exact ih (known_of_stateDef? found) (trail.snoc fresh includes) circular

/-! ### Resolution without a bound -/

/-- What there is to resolve: a state, or entries of a state that is the last one of the path. -/
inductive Task
  | state (state : StateDef)
  | entries (name : String) (entries : List RuleDef)

/-- What resolution comes to, if it comes to anything, on a path and with what has been kept. A
state is looked up, then looked for on the path, and only then are its entries resolved. -/
inductive Resolves (context : BuildContext) :
    List String → Resolved → Task → Except TableError (List Rule × Resolved) → Prop
  | kept {path : List String} {resolved : Resolved} {state : StateDef} {rules : List Rule}
    (kept : resolved.lookup state.name = some rules) :
    Resolves context path resolved (.state state) (.ok (rules, resolved))
  | again {path : List String} {resolved : Resolved} {state : StateDef}
    (missing : resolved.lookup state.name = none) (again : state.name ∈ path) :
    Resolves context path resolved (.state state) (.error (cycleError path state.name))
  | enter {path : List String} {resolved : Resolved} {state : StateDef}
    {result : Except TableError (List Rule × Resolved)}
    (missing : resolved.lookup state.name = none) (fresh : state.name ∉ path)
    (inner : Resolves context (path ++ [state.name]) resolved (.entries state.name state.entries)
      result) :
    Resolves context path resolved (.state state)
      (result.map fun (rules, later) => (rules, (state.name, rules) :: later))
  | nil {path : List String} {resolved : Resolved} {name : String} :
    Resolves context path resolved (.entries name []) (.ok ([], resolved))
  | refuse {path : List String} {resolved : Resolved} {name source : String} {action : Action}
    {next : Transition} {rest : List RuleDef} {error : TableError}
    (refused : context.compileRule name source action next = .error error) :
    Resolves context path resolved (.entries name (.rule source action next :: rest))
      (.error error)
  | take {path : List String} {resolved : Resolved} {name source : String} {action : Action}
    {next : Transition} {rest : List RuleDef} {rule : Rule}
    {result : Except TableError (List Rule × Resolved)}
    (taken : context.compileRule name source action next = .ok rule)
    (tail : Resolves context path resolved (.entries name rest) result) :
    Resolves context path resolved (.entries name (.rule source action next :: rest))
      (result.map fun (rules, later) => (rule :: rules, later))
  | unknown {path : List String} {resolved : Resolved} {name target : String}
    {rest : List RuleDef} (unknown : context.stateDef? target = none) :
    Resolves context path resolved (.entries name (.includeState target :: rest))
      (.error (.unknownState name target))
  | stop {path : List String} {resolved : Resolved} {name target : String} {included : StateDef}
    {rest : List RuleDef} {error : TableError} (found : context.stateDef? target = some included)
    (head : Resolves context path resolved (.state included) (.error error)) :
    Resolves context path resolved (.entries name (.includeState target :: rest)) (.error error)
  | splice {path : List String} {resolved between : Resolved} {name target : String}
    {included : StateDef} {rest : List RuleDef} {front : List Rule}
    {result : Except TableError (List Rule × Resolved)}
    (found : context.stateDef? target = some included)
    (head : Resolves context path resolved (.state included) (.ok (front, between)))
    (tail : Resolves context path between (.entries name rest) result) :
    Resolves context path resolved (.entries name (.includeState target :: rest))
      (result.map fun (rules, later) => (front ++ rules, later))

theorem Resolves.unique {task : Task} {result other : Except TableError (List Rule × Resolved)}
    (first : context.Resolves path resolved task result)
    (second : context.Resolves path resolved task other) : result = other := by
  -- What decides between the constructors has one answer only, and the parts come to one result by
  -- induction.
  induction first generalizing other with
  | kept kept =>
    cases second with
    | kept again =>
      cases kept.symm.trans again
      rfl
    | again missing | enter missing => cases kept.symm.trans missing
  | again missing again =>
    cases second with
    | kept kept => cases kept.symm.trans missing
    | again => rfl
    | enter _ fresh => exact absurd again fresh
  | enter missing fresh _ ih =>
    cases second with
    | kept kept => cases kept.symm.trans missing
    | again _ again => exact absurd again fresh
    | enter _ _ inner => rw [ih inner]
  | nil =>
    cases second
    rfl
  | refuse refused =>
    cases second with
    | refuse again => exact congrArg _ (Except.error.inj (refused.symm.trans again))
    | take taken => cases refused.symm.trans taken
  | take taken _ ih =>
    cases second with
    | refuse refused => cases refused.symm.trans taken
    | take again tail =>
      cases taken.symm.trans again
      rw [ih tail]
  | unknown unknown =>
    cases second with
    | unknown => rfl
    | stop found | splice found => cases unknown.symm.trans found
  | stop found _ ih =>
    cases second with
    | unknown unknown => cases found.symm.trans unknown
    | stop again head =>
      cases found.symm.trans again
      exact ih head
    | splice again head =>
      cases found.symm.trans again
      cases ih head
  | splice found _ _ ihHead ihTail =>
    cases second with
    | unknown unknown => cases found.symm.trans unknown
    | stop again head =>
      cases found.symm.trans again
      cases ihHead head
    | splice again head tail =>
      cases found.symm.trans again
      cases ihHead head
      rw [ihTail tail]

/-- Entries are resolved if the states that they include are. -/
theorem exists_resolves_entries
    (each : ∀ target included, context.stateDef? target = some included → ∀ resolved,
      ∃ result, context.Resolves path resolved (.state included) result)
    (name : String) (entries : List RuleDef) (resolved : Resolved) :
    ∃ result, context.Resolves path resolved (.entries name entries) result := by
  induction entries generalizing resolved with
  | nil => exact ⟨_, .nil⟩
  | cons entry rest ih =>
    cases entry with
    | rule source action next =>
      cases taken : context.compileRule name source action next with
      | error error => exact ⟨_, .refuse taken⟩
      | ok rule =>
        obtain ⟨result, tail⟩ := ih resolved
        exact ⟨_, .take taken tail⟩
    | includeState target =>
      cases found : context.stateDef? target with
      | none => exact ⟨_, .unknown found⟩
      | some included =>
        obtain ⟨front, head⟩ := each target included found resolved
        cases front with
        | error error => exact ⟨_, .stop found head⟩
        | ok front =>
          obtain ⟨result, tail⟩ := ih front.2
          exact ⟨_, .splice found head tail⟩

/-- A state is resolved if its entries are wherever it is new on the path. -/
theorem exists_resolves_state
    (inner : state.name ∉ path → ∃ result, context.Resolves (path ++ [state.name]) resolved
      (.entries state.name state.entries) result) :
    ∃ result, context.Resolves path resolved (.state state) result := by
  cases kept : resolved.lookup state.name with
  | some rules => exact ⟨_, .kept kept⟩
  | none =>
    by_cases again : state.name ∈ path
    · exact ⟨_, .again kept again⟩
    · obtain ⟨result, inner⟩ := inner again
      exact ⟨_, .enter kept again inner⟩

/-- The recursion comes to exactly one result, whatever states include one another and whatever has
been kept. -/
theorem existsUnique_resolves (context : BuildContext) (path : List String) (resolved : Resolved)
    (task : Task) : ∃! result, context.Resolves path resolved task result := by
  have entriesResolve (count : Nat) : ∀ (path : List String), context.unvisited path = count →
      ∀ name entries resolved,
        ∃ result, context.Resolves path resolved (.entries name entries) result := by
    -- An inclusion that is followed leaves fewer states that are not on the path.
    induction count using Nat.strongRecOn with
    | ind count ih =>
      rintro path rfl
      apply exists_resolves_entries
      intro target included found resolved
      apply exists_resolves_state
      intro fresh
      exact ih _ (unvisited_lt found fresh) _ rfl _ _ _
  obtain ⟨result, resolves⟩ : ∃ result, context.Resolves path resolved task result := by
    cases task with
    | entries name entries => exact entriesResolve _ path rfl name entries resolved
    | state state => exact exists_resolves_state fun _ => entriesResolve _ _ rfl _ _ _
  exact ⟨result, resolves, fun other also => also.unique resolves⟩

/-! ### The bound is never met -/

theorem expandEntries_resolves
    (each : ∀ target included, context.stateDef? target = some included → ∀ resolved,
      context.Resolves path resolved (.state included) (resolve resolved included)) :
    context.Resolves path resolved (.entries name entries)
      (context.expandEntries name resolve resolved entries) := by
  induction entries generalizing resolved with
  | nil => exact .nil
  | cons entry rest ih =>
    cases entry with
    | rule source action next =>
      rw [expandEntries_rule]
      cases taken : context.compileRule name source action next with
      | error error => exact .refuse taken
      | ok rule => exact .take taken ih
    | includeState target =>
      cases found : context.stateDef? target with
      | none =>
        rw [expandEntries_unknown found]
        exact .unknown found
      | some included =>
        rw [expandEntries_includeState found]
        have head := each target included found resolved
        cases known : resolve resolved included with
        | error error =>
          rw [known] at head
          exact .stop found head
        | ok front =>
          rw [known] at head
          exact .splice found head ih

/-- Only a state that has not been kept and is new on the path is resolved in its entries. -/
theorem resolveWithin_resolves_of_fresh
    (inner : resolved.lookup state.name = none → state.name ∉ path →
      context.Resolves path resolved (.state state)
        (context.resolveWithin room path resolved state)) :
    context.Resolves path resolved (.state state)
      (context.resolveWithin room path resolved state) := by
  cases kept : resolved.lookup state.name with
  | some rules => exact resolveWithin_of_kept kept ▸ .kept kept
  | none =>
    by_cases again : state.name ∈ path
    · exact resolveWithin_of_again kept again ▸ .again kept again
    · exact inner kept again

/-- With room for the states that are not on the path yet, the bounded recursion comes to what the
unbounded one does. -/
theorem resolveWithin_resolves (defined : context.hasState state.name)
    (enough : context.unvisited path ≤ room) :
    context.Resolves path resolved (.state state)
      (context.resolveWithin room path resolved state) := by
  have entered (fresh : state.name ∉ path) :
      context.unvisited (path ++ [state.name]) < context.unvisited path := by
    obtain ⟨same, found⟩ := hasState_iff.mp defined
    have named := name_of_stateDef? found
    rw [← named]
    exact unvisited_lt found (named ▸ fresh)
  induction room generalizing path resolved state with
  | zero =>
    -- No state is left that is not on the path.
    refine resolveWithin_resolves_of_fresh fun missing fresh => ?_
    have fewer := entered fresh
    omega
  | succ room ih =>
    refine resolveWithin_resolves_of_fresh fun missing fresh => ?_
    have fewer := entered fresh
    rw [resolveWithin_of_fresh missing fresh]
    refine .enter missing fresh (expandEntries_resolves fun target included found resolved => ?_)
    have found : context.stateDef? included.name = some included := name_of_stateDef? found ▸ found
    exact ih (hasState_iff.mpr ⟨included, found⟩) (by omega) (unvisited_lt found)

theorem resolve_resolves (defined : state ∈ context.states) (resolved : Resolved) :
    context.Resolves [] resolved (.state state) (context.resolve resolved state) := by
  refine resolveWithin_resolves ?_ ?_
  · simpa [hasState, stateDef?] using ⟨state, defined, rfl⟩
  · exact List.length_filter_le _ _

end BuildContext

namespace TableDef

/-- **Cycles.** If a build fails for a cycle, then the names that it shows are at least two, the
first one and the last one are the same, the others are different, and each state includes the next
one. Whatever states include one another, resolution without a bound comes to exactly one result,
for every state and on every path, and this is what the states of a definition are resolved to. -/
theorem build_finds_cycles (library : Library) (definition : TableDef) :
    let context := definition.context library
    (∀ cycle, definition.build library = .error (.circularInclude cycle) →
      IsCycle definition.Includes cycle) ∧
    (∀ path resolved task, ∃! result, context.Resolves path resolved task result) ∧
    ∀ resolved, ∀ state ∈ definition.states,
      context.Resolves [] resolved (.state state) (context.resolve resolved state) := by
  intro context
  refine ⟨?_, context.existsUnique_resolves, ?_⟩
  · intro cycle failed
    obtain ⟨distinct, state, member, breaks⟩ :=
      ((exists_breaks failed).resolve_left nofun).resolve_left nofun
    have known : context.Known state := BuildContext.known_of_mem distinct member
    apply (breaks.isCycle known (.nil _) rfl).mono
    intro outer inner
    exact (includes_context_iff distinct).mp
  · intro resolved state member
    exact BuildContext.resolve_resolves member resolved

/-- The root includes a state of a cycle, which is shown without the root. -/
theorem build_finds_cycles_of_root :
    let root : StateDef := ⟨"root", [.includeState "words", .includeState "first"]⟩
    let words : StateDef := ⟨"words", [.staying "[a-z]+" (.token .name)]⟩
    let first : StateDef := ⟨"first", [.includeState "words", .includeState "second"]⟩
    let second : StateDef := ⟨"second", [.includeState "first"]⟩
    let definition : TableDef := ⟨"cycle", {}, [root, words, first, second]⟩
    definition.build [] = .error (.circularInclude ["first", "second", "first"]) ∧
      IsCycle definition.Includes ["first", "second", "first"] := by
  intro root words first second definition
  have failed : definition.build [] = .error (.circularInclude ["first", "second", "first"]) := rfl
  exact ⟨failed, (build_finds_cycles [] definition).1 _ failed⟩

end TableDef

end RuleLexer
