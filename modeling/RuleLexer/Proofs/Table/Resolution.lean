import Mathlib.Data.List.Perm.Subperm
import RuleLexer.Proofs.Table.Flattening

/-!
# Resolution

States are resolved depth first. What has been resolved is kept, the path of the states under way
finds cycles, and the room that is left bounds the depth. None of this shows in the result: the
rules of a state are its flattening, and resolution fails only if something in the definition is
wrong.

What has been resolved is used without looking at the path. This hides no cycle, since a state with
a flattening is on no cycle; and the room is never used up, since the states of a path are different
and all of them are defined.

## Main results

* `resolveAll_flattens`: what is resolved is flattened.
* `resolveAll_total`: the states of a definition without cycles, unknown inclusions and rules that
  do not fit are all resolved.
-/
namespace RuleLexer

namespace BuildContext

variable {context : BuildContext} {entries : List RuleDef} {rules : List Rule}
  {resolved later : Resolved} {state included : StateDef} {name target : String}
  {path : List String} {room : Nat}
  {resolve : Resolved → StateDef → Except TableError (List Rule × Resolved)}

/-- A state is the one that is found under its name. -/
def Known (context : BuildContext) (state : StateDef) : Prop :=
  context.stateDef? state.name = some state

theorem known_of_stateDef? (found : context.stateDef? name = some state) : context.Known state := by
  rw [Known, name_of_stateDef? found, found]

/-! ### Entries and states -/

section Equations

variable {rest : List RuleDef} {source : String} {action : Action} {next : Transition}

theorem expandEntries_rule :
    context.expandEntries name resolve resolved (.rule source action next :: rest) =
      context.compileRule name source action next >>= fun rule =>
        (context.expandEntries name resolve resolved rest).map fun (rules, later) =>
          (rule :: rules, later) := by
  rw [expandEntries]
  cases context.compileRule name source action next with
  | error error => rfl
  | ok rule =>
    cases context.expandEntries name resolve resolved rest <;>
      simp [bind, Except.bind, pure, Except.pure, Except.map]

theorem expandEntries_unknown (unknown : context.stateDef? target = none) :
    context.expandEntries name resolve resolved (.includeState target :: rest) =
      .error (.unknownState name target) := by
  simp only [expandEntries, unknown]

theorem expandEntries_includeState (found : context.stateDef? target = some included) :
    context.expandEntries name resolve resolved (.includeState target :: rest) =
      resolve resolved included >>= fun (front, between) =>
        (context.expandEntries name resolve between rest).map fun (rules, later) =>
          (front ++ rules, later) := by
  simp only [expandEntries, found]
  cases resolve resolved included with
  | error error => rfl
  | ok front =>
    cases expanded : context.expandEntries name resolve front.2 rest <;>
      simp [expanded, bind, Except.bind, pure, Except.pure, Except.map]

/-- What has been kept is used without looking at the path. -/
theorem resolveWithin_of_kept (kept : resolved.lookup state.name = some rules) :
    context.resolveWithin room path resolved state = .ok (rules, resolved) := by
  unfold resolveWithin
  rw [kept]

theorem resolveWithin_of_again (missing : resolved.lookup state.name = none)
    (again : state.name ∈ path) :
    context.resolveWithin room path resolved state =
      .error (.circularInclude (path.dropWhile (· != state.name) ++ [state.name])) := by
  unfold resolveWithin
  rw [missing]
  exact if_pos again

/-- A state that is new is resolved in its entries, and kept. -/
theorem resolveWithin_of_fresh (missing : resolved.lookup state.name = none)
    (fresh : state.name ∉ path) :
    context.resolveWithin (room + 1) path resolved state =
      (context.expandEntries state.name (context.resolveWithin room (path ++ [state.name])) resolved
        state.entries).map fun (rules, later) => (rules, (state.name, rules) :: later) := by
  rw [resolveWithin, missing]
  refine (if_neg fresh).trans ?_
  cases expanded : context.expandEntries state.name
      (context.resolveWithin room (path ++ [state.name])) resolved state.entries <;>
    simp [expanded, bind, Except.bind, pure, Except.pure, Except.map]

end Equations

/-! ### What is resolved is flattened -/

/-- What is kept for a name is the flattening of the state with this name. -/
def Sound (context : BuildContext) (resolved : Resolved) : Prop :=
  ∀ state rules, context.Known state → resolved.lookup state.name = some rules →
    context.Flattens state.entries rules

theorem sound_nil (context : BuildContext) : context.Sound [] := by
  intro state rules _ found
  cases found

theorem Sound.cons (sound : context.Sound resolved) (known : context.Known state)
    (flat : context.Flattens state.entries rules) :
    context.Sound ((state.name, rules) :: resolved) := by
  intro other others knownOther found
  by_cases same : other.name = state.name
  · have : other = state := by
      rw [Known, same, known] at knownOther
      exact (Option.some.inj knownOther).symm
    subst this
    rw [List.lookup_cons_self] at found
    cases found
    exact flat
  · rw [List.lookup_cons, beq_false_of_ne same] at found
    exact sound other others knownOther found

theorem expandEntries_flattens
    (each : ∀ {resolved later included rules}, context.Sound resolved → context.Known included →
      resolve resolved included = .ok (rules, later) →
        context.Flattens included.entries rules ∧ context.Sound later)
    (sound : context.Sound resolved)
    (expanded : context.expandEntries name resolve resolved entries = .ok (rules, later)) :
    context.Flattens entries rules ∧ context.Sound later := by
  induction entries generalizing resolved rules with
  | nil =>
    cases expanded
    exact ⟨.nil, sound⟩
  | cons entry entries ih =>
    cases entry with
    | rule source action next =>
      obtain ⟨rule, taken, expanded⟩ := bind_eq_ok_iff.mp expanded
      obtain ⟨⟨more, last⟩, tail, done⟩ := bind_eq_ok_iff.mp expanded
      cases done
      obtain ⟨pattern, compiled, fits, rfl⟩ := compileRule_eq_ok_iff.mp taken
      obtain ⟨flat, sound⟩ := ih sound tail
      exact ⟨.rule compiled fits flat, sound⟩
    | includeState target =>
      simp only [expandEntries] at expanded
      cases found : context.stateDef? target with
      | none => simp [found] at expanded
      | some included =>
        simp only [found] at expanded
        obtain ⟨⟨front, between⟩, head, expanded⟩ := bind_eq_ok_iff.mp expanded
        obtain ⟨⟨more, last⟩, tail, done⟩ := bind_eq_ok_iff.mp expanded
        cases done
        obtain ⟨flatHead, sound⟩ := each sound (known_of_stateDef? found) head
        obtain ⟨flat, sound⟩ := ih sound tail
        exact ⟨.includeState found flatHead flat, sound⟩

theorem resolveWithin_flattens (sound : context.Sound resolved) (known : context.Known state)
    (done : context.resolveWithin room path resolved state = .ok (rules, later)) :
    context.Flattens state.entries rules ∧ context.Sound later := by
  induction room generalizing path resolved state rules later with
  | zero =>
    unfold resolveWithin at done
    split at done
    next kept =>
      cases done
      exact ⟨sound _ _ known kept, sound⟩
    next => split at done <;> cases done
  | succ room ih =>
    unfold resolveWithin at done
    split at done
    next kept =>
      cases done
      exact ⟨sound _ _ known kept, sound⟩
    next =>
      split at done
      · cases done
      · obtain ⟨⟨expansion, last⟩, expanded, done⟩ := bind_eq_ok_iff.mp done
        cases done
        obtain ⟨flat, soundLast⟩ := expandEntries_flattens ih sound expanded
        exact ⟨flat, soundLast.cons known flat⟩

/-- A state of a table stands for a state of a definition if it has its name and the flattening of
its entries. -/
def Stands (context : BuildContext) (definition : StateDef) (state : State) : Prop :=
  state.name = definition.name ∧ context.Flattens definition.entries state.rules

theorem resolveAll_flattens {definitions : List StateDef} {states : List State}
    (sound : context.Sound resolved) (known : ∀ state ∈ definitions, context.Known state)
    (done : context.resolveAll resolved definitions = .ok states) :
    List.Forall₂ context.Stands definitions states := by
  induction definitions generalizing resolved states with
  | nil =>
    cases done
    exact .nil
  | cons definition definitions ih =>
    rw [List.forall_mem_cons] at known
    obtain ⟨⟨rules, between⟩, here, done⟩ := bind_eq_ok_iff.mp done
    obtain ⟨rest, later, done⟩ := bind_eq_ok_iff.mp done
    cases done
    obtain ⟨flat, sound⟩ := resolveWithin_flattens sound known.1 here
    exact .cons ⟨rfl, flat⟩ (ih sound known.2 later)

/-! ### What is right is resolved -/

/-- A context with nothing wrong in it. -/
structure Resolvable (context : BuildContext) : Prop where
  included : ∀ outer inner, context.Includes outer inner → context.hasState inner
  acyclic : ∀ name, ¬Relation.TransGen context.Includes name name
  taken : ∀ state, context.Known state → ∀ source action next,
    .rule source action next ∈ state.entries →
      ∃ pattern, Pattern.compile context.options source = .ok pattern ∧
        context.Fits ⟨pattern, action, next⟩

/-- The states of a path are defined and different, and each of them leads to the state that the
path has come to. -/
structure Leads (context : BuildContext) (path : List String) (name : String) : Prop where
  distinct : path.Nodup
  defined : ∀ earlier ∈ path, context.hasState earlier
  reaches : ∀ earlier ∈ path, Relation.TransGen context.Includes earlier name

namespace Leads

theorem nil (name : String) : context.Leads [] name := ⟨List.nodup_nil, by simp, by simp⟩

variable (leads : context.Leads path name)

include leads

theorem defined_snoc (defined : context.hasState name) :
    ∀ earlier ∈ path ++ [name], context.hasState earlier := by
  intro earlier member
  rcases List.mem_append.mp member with member | member
  · exact leads.defined earlier member
  · exact List.mem_singleton.mp member ▸ defined

theorem distinct_snoc (fresh : name ∉ path) : (path ++ [name]).Nodup := by
  refine List.nodup_append.mpr ⟨leads.distinct, by simp, ?_⟩
  intro earlier member last again
  rw [List.mem_singleton.mp again]
  rintro rfl
  exact fresh member

theorem snoc (fresh : name ∉ path) (defined : context.hasState name)
    (includes : context.Includes name target) : context.Leads (path ++ [name]) target := by
  refine ⟨leads.distinct_snoc fresh, leads.defined_snoc defined, ?_⟩
  intro earlier member
  rcases List.mem_append.mp member with member | member
  · exact (leads.reaches earlier member).tail includes
  · exact List.mem_singleton.mp member ▸ .single includes

/-- A path is shorter than the list of states. -/
theorem length_lt (fresh : name ∉ path) (defined : context.hasState name) :
    path.length < context.states.length := by
  have among : path ++ [name] ⊆ context.states.map StateDef.name := by
    intro earlier member
    obtain ⟨state, found⟩ := hasState_iff.mp (leads.defined_snoc defined earlier member)
    exact List.mem_map.mpr ⟨state, mem_of_stateDef? found, name_of_stateDef? found⟩
  have shorter := (List.subperm_of_subset (leads.distinct_snoc fresh) among).length_le
  simp only [List.length_append, List.length_singleton, List.length_map] at shorter
  omega

end Leads

namespace Resolvable

variable (resolvable : context.Resolvable)

include resolvable

/-- Without cycles a path does not come back to one of its states. -/
theorem not_mem (leads : context.Leads path name) : name ∉ path :=
  fun member => resolvable.acyclic name (leads.reaches name member)

theorem expandEntries_total (known : context.Known state) (within : entries ⊆ state.entries)
    (each : ∀ target included, context.Includes state.name target →
      context.stateDef? target = some included →
        ∀ resolved, ∃ result, resolve resolved included = .ok result)
    (resolved : Resolved) :
    ∃ result, context.expandEntries state.name resolve resolved entries = .ok result := by
  induction entries generalizing resolved with
  | nil => exact ⟨_, rfl⟩
  | cons entry entries ih =>
    obtain ⟨here, rest⟩ := List.cons_subset.mp within
    cases entry with
    | rule source action next =>
      obtain ⟨pattern, compiled, fits⟩ := resolvable.taken state known source action next here
      have taken : context.compileRule state.name source action next = _ :=
        compileRule_eq_ok_iff.mpr ⟨pattern, compiled, fits, rfl⟩
      obtain ⟨result, tail⟩ := ih rest resolved
      exact ⟨_, bind_eq_ok_iff.mpr ⟨_, taken, bind_eq_ok_iff.mpr ⟨_, tail, rfl⟩⟩⟩
    | includeState target =>
      have includes : context.Includes state.name target := ⟨state, known, here⟩
      obtain ⟨included, found⟩ := hasState_iff.mp (resolvable.included _ _ includes)
      obtain ⟨⟨front, between⟩, head⟩ := each target included includes found resolved
      obtain ⟨result, tail⟩ := ih rest between
      simp only [expandEntries, found]
      exact ⟨_, bind_eq_ok_iff.mpr ⟨_, head, bind_eq_ok_iff.mpr ⟨_, tail, rfl⟩⟩⟩

/-- The room that is left is enough for the states that are not on the path yet. -/
theorem resolveWithin_total (known : context.Known state) (leads : context.Leads path state.name)
    (enough : context.states.length ≤ path.length + room) (resolved : Resolved) :
    ∃ result, context.resolveWithin room path resolved state = .ok result := by
  have defined : context.hasState state.name := hasState_iff.mpr ⟨state, known⟩
  have shorter := leads.length_lt (resolvable.not_mem leads) defined
  induction room generalizing path resolved state with
  | zero => omega
  | succ room ih =>
    cases kept : resolved.lookup state.name with
    | some rules => exact ⟨_, resolveWithin_of_kept kept⟩
    | none =>
      have each (target : String) (included : StateDef)
          (includes : context.Includes state.name target)
          (found : context.stateDef? target = some included) (resolved : Resolved) :
          ∃ result, context.resolveWithin room (path ++ [state.name]) resolved included =
            .ok result := by
        have known := known_of_stateDef? found
        have further := leads.snoc (resolvable.not_mem leads) defined includes
        have defined : context.hasState included.name := hasState_iff.mpr ⟨included, known⟩
        rw [← name_of_stateDef? found] at further
        refine ih known further ?_ resolved defined
          (further.length_lt (resolvable.not_mem further) defined)
        rw [List.length_append, List.length_singleton]
        omega
      obtain ⟨result, expanded⟩ :=
        resolvable.expandEntries_total known (List.Subset.refl _) each resolved
      rw [resolveWithin_of_fresh kept (resolvable.not_mem leads), expanded]
      exact ⟨_, rfl⟩

theorem resolveAll_total {definitions : List StateDef}
    (known : ∀ state ∈ definitions, context.Known state) (resolved : Resolved) :
    ∃ states, context.resolveAll resolved definitions = .ok states := by
  induction definitions generalizing resolved with
  | nil => exact ⟨_, rfl⟩
  | cons definition definitions ih =>
    rw [List.forall_mem_cons] at known
    have enough : context.states.length ≤ ([] : List String).length + context.states.length := by
      simp
    obtain ⟨⟨rules, later⟩, here⟩ := resolvable.resolveWithin_total known.1 (.nil _) enough resolved
    obtain ⟨states, rest⟩ := ih known.2 later
    exact ⟨_, bind_eq_ok_iff.mpr ⟨_, here, bind_eq_ok_iff.mpr ⟨_, rest, rfl⟩⟩⟩

end Resolvable

end BuildContext

end RuleLexer
