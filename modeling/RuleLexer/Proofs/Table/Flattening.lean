import Mathlib.Data.List.Forall2
import Mathlib.Logic.Relation
import RuleLexer.Proofs.Table.Admission

/-!
# Flattened entries

What the entries of a state stand for is defined by recursion through the states that they include,
so it is a relation: entries that include one another for ever have no flattening at all. The
relation knows neither the order in which states are resolved nor what has been resolved before.

## Main results

* `Flattens.unique`: entries have at most one flattening.
* `Flattens.fits_of_mem`: the rules of a flattening have been compiled and fit.
* `Flattens.acyclic`: a state that can be flattened does not include itself, at whatever distance.
-/
namespace RuleLexer

namespace BuildContext

variable {context : BuildContext} {entries more : List RuleDef} {rules others : List Rule}
  {outer inner : String} {state : StateDef}

theorem name_of_stateDef? (found : context.stateDef? outer = some state) : state.name = outer := by
  simpa using List.find?_some found

theorem mem_of_stateDef? (found : context.stateDef? outer = some state) :
    state ∈ context.states :=
  List.mem_of_find?_eq_some found

theorem hasState_iff : context.hasState outer ↔ ∃ state, context.stateDef? outer = some state := by
  rw [hasState, Option.isSome_iff_exists]

/-- One state includes another one by an entry of its own. -/
def Includes (context : BuildContext) (outer inner : String) : Prop :=
  ∃ state, context.stateDef? outer = some state ∧ .includeState inner ∈ state.entries

/-- The rules that entries stand for, in order. The inclusion of a state stands for all the rules
that the entries of this state stand for. -/
inductive Flattens (context : BuildContext) : List RuleDef → List Rule → Prop
  | nil : Flattens context [] []
  | rule {source : String} {action : Action} {next : Transition} {pattern : Pattern}
      {rest : List RuleDef} {rules : List Rule}
      (compiled : Pattern.compile context.options source = .ok pattern)
      (fits : context.Fits ⟨pattern, action, next⟩) (tail : Flattens context rest rules) :
      Flattens context (.rule source action next :: rest) (⟨pattern, action, next⟩ :: rules)
  | includeState {target : String} {included : StateDef} {rest : List RuleDef}
      {front rules : List Rule} (found : context.stateDef? target = some included)
      (head : Flattens context included.entries front) (tail : Flattens context rest rules) :
      Flattens context (.includeState target :: rest) (front ++ rules)

/-- The entries with those of the states that they include in the place of the inclusions. -/
def spread (context : BuildContext) (entries : List RuleDef) : List RuleDef :=
  entries.flatMap fun
    | .includeState target => (context.stateDef? target).elim [] StateDef.entries
    | entry => [entry]

/-- A rule is what an entry has been compiled to. -/
inductive Compiles (context : BuildContext) : RuleDef → Rule → Prop
  | rule {source : String} {action : Action} {next : Transition} {pattern : Pattern}
    (compiled : Pattern.compile context.options source = .ok pattern) :
    Compiles context (.rule source action next) ⟨pattern, action, next⟩

namespace Flattens

theorem unique (first : context.Flattens entries rules) (second : context.Flattens entries others) :
    rules = others := by
  induction first generalizing others with
  | nil =>
    cases second
    rfl
  | rule compiled _ _ ih =>
    cases second with
    | rule again _ tail =>
      cases compiled.symm.trans again
      rw [ih tail]
  | includeState found _ _ ihHead ihTail =>
    cases second with
    | includeState again head tail =>
      cases found.symm.trans again
      rw [ihHead head, ihTail tail]

theorem append (first : context.Flattens entries rules) (second : context.Flattens more others) :
    context.Flattens (entries ++ more) (rules ++ others) := by
  induction first with
  | nil => exact second
  | rule compiled fits _ ih => exact .rule compiled fits ih
  | includeState found head _ _ ih =>
    rw [List.append_assoc]
    exact .includeState found head ih

/-- The flattening of entries can be cut wherever the entries can. -/
theorem exists_append (flat : context.Flattens (entries ++ more) rules) :
    ∃ front back, context.Flattens entries front ∧ context.Flattens more back ∧
      rules = front ++ back := by
  induction entries generalizing rules with
  | nil => exact ⟨[], rules, .nil, flat, rfl⟩
  | cons entry entries ih =>
    cases flat with
    | rule compiled fits tail =>
      obtain ⟨front, back, first, second, rfl⟩ := ih tail
      exact ⟨_ :: front, back, .rule compiled fits first, second, rfl⟩
    | includeState found head tail =>
      obtain ⟨front, back, first, second, rfl⟩ := ih tail
      exact ⟨_ ++ front, back, .includeState found head first, second, by simp⟩

/-- A rule among the entries has been compiled and fits. -/
theorem exists_pattern (flat : context.Flattens entries rules) {source : String} {action : Action}
    {next : Transition} (member : .rule source action next ∈ entries) :
    ∃ pattern, Pattern.compile context.options source = .ok pattern ∧
      context.Fits ⟨pattern, action, next⟩ := by
  obtain ⟨before, after, rfl⟩ := List.append_of_mem member
  obtain ⟨_, _, -, back, -⟩ := flat.exists_append
  cases back with
  | rule compiled fits _ => exact ⟨_, compiled, fits⟩

/-- A state that entries include is defined and can be flattened. -/
theorem exists_included (flat : context.Flattens entries rules)
    (member : .includeState inner ∈ entries) :
    ∃ included front, context.stateDef? inner = some included ∧
      context.Flattens included.entries front := by
  obtain ⟨before, after, rfl⟩ := List.append_of_mem member
  obtain ⟨_, _, -, back, -⟩ := flat.exists_append
  cases back with
  | includeState found head _ => exact ⟨_, _, found, head⟩

/-- The rules of a flattening have been compiled from entries of states and fit. -/
theorem fits_of_mem (flat : context.Flattens entries rules) {rule : Rule} (member : rule ∈ rules) :
    (∃ source, Pattern.compile context.options source = .ok rule.pattern) ∧ context.Fits rule := by
  induction flat with
  | nil => cases member
  | @rule source _ _ _ _ _ compiled fits _ ih =>
    rcases List.mem_cons.mp member with rfl | member
    · exact ⟨⟨source, compiled⟩, fits⟩
    · exact ih member
  | includeState _ _ _ ihHead ihTail =>
    rcases List.mem_append.mp member with member | member
    · exact ihHead member
    · exact ihTail member

/-- The rules of a flattening have been compiled from the entries of states that are defined, if
this is where the flattened entries stand. -/
theorem exists_entry_of_mem (flat : context.Flattens entries rules)
    (defined : ∀ entry ∈ entries, ∃ state ∈ context.states, entry ∈ state.entries) {rule : Rule}
    (member : rule ∈ rules) :
    ∃ state ∈ context.states, ∃ source, .rule source rule.action rule.next ∈ state.entries ∧
      Pattern.compile context.options source = .ok rule.pattern := by
  induction flat with
  | nil => cases member
  | @rule source _ _ _ _ _ compiled _ _ ih =>
    rw [List.forall_mem_cons] at defined
    rcases List.mem_cons.mp member with rfl | member
    · obtain ⟨state, known, here⟩ := defined.1
      exact ⟨state, known, source, here, compiled⟩
    · exact ih defined.2 member
  | @includeState _ included _ _ _ found _ _ ihHead ihTail =>
    rw [List.forall_mem_cons] at defined
    rcases List.mem_append.mp member with member | member
    · exact ihHead (fun entry here => ⟨included, mem_of_stateDef? found, here⟩) member
    · exact ihTail defined.2 member

/-- The entries of included states flatten to the same rules in place of the inclusions. -/
theorem spread (flat : context.Flattens entries rules) :
    context.Flattens (context.spread entries) rules := by
  induction flat with
  | nil => exact .nil
  | rule compiled fits _ ih => exact .rule compiled fits ih
  | includeState found head _ _ ih =>
    simp only [BuildContext.spread, List.flatMap_cons, found, Option.elim_some]
    exact head.append ih

/-- Without inclusions there is a rule for each entry. -/
theorem compiles (flat : context.Flattens entries rules)
    (plain : ∀ target, .includeState target ∉ entries) :
    List.Forall₂ context.Compiles entries rules := by
  induction flat with
  | nil => exact .nil
  | rule compiled _ _ ih =>
    exact .cons (.rule compiled) (ih fun target member => plain target (.tail _ member))
  | includeState => exact absurd List.mem_cons_self (plain _)

/-! ### Cycles -/

/-- From a state that entries include, inclusions lead only finitely far. -/
theorem acc (flat : context.Flattens entries rules) (member : .includeState inner ∈ entries) :
    Acc (Function.swap context.Includes) inner := by
  induction flat generalizing inner with
  | nil => cases member
  | rule _ _ _ ih =>
    rcases List.mem_cons.mp member with same | member
    · cases same
    · exact ih member
  | includeState found _ _ ihHead ihTail =>
    rcases List.mem_cons.mp member with same | member
    · cases same
      refine .intro _ ?_
      rintro further ⟨state, again, member⟩
      cases found.symm.trans again
      exact ihHead member
    · exact ihTail member

/-- A state that can be flattened does not include itself, at whatever distance. -/
theorem acyclic (found : context.stateDef? outer = some state)
    (flat : context.Flattens state.entries rules) :
    ¬Relation.TransGen context.Includes outer outer := by
  have ends : Acc (Function.swap context.Includes) outer := by
    refine .intro _ ?_
    rintro inner ⟨same, again, member⟩
    cases found.symm.trans again
    exact flat.acc member
  -- Where everything leads only finitely far, nothing leads to itself.
  have noLoop {name : String}
      (finite : Acc (Relation.TransGen (Function.swap context.Includes)) name) :
      ¬Relation.TransGen (Function.swap context.Includes) name name := by
    induction finite with
    | intro name _ ih =>
      intro loop
      exact ih name loop loop
  intro cycle
  exact noLoop ends.transGen (Relation.transGen_swap.mpr cycle)

end Flattens

end BuildContext

end RuleLexer
