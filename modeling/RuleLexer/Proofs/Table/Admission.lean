import RuleLexer.Proofs.Except
import RuleLexer.Table.Build

/-!
# Rules that a table takes

A rule is compiled where it is written, and the checks come one after the other: the pattern, then
idling, then the action, then the transition. Which error is reported depends on this order and on
the state that the rule is written in, but whether there is one depends on neither.

## Main result

`BuildContext.compileRule_eq_ok_iff`: a rule is taken exactly if its pattern compiles and the rule
fits the states and tables that it is resolved against.
-/
namespace RuleLexer

/-- The nested tokenizations that an action can start. -/
def Action.delegates : Action → List Delegate
  | .token _ => []
  | .delegate nested => [nested]
  | .byGroups groups => groups.flatMap fun
    | .delegate nested => [nested]
    | .kind _ | .skip => []

/-- What an action makes of the parts of a match that it does not skip. -/
def Action.partActions : Action → List GroupAction
  | .token kind => [.kind kind]
  | .delegate nested => [.delegate nested]
  | .byGroups groups => groups

/-- The states that a transition names. -/
def Transition.targets : Transition → List String
  | .stay | .pushCurrent | .pop _ => []
  | .push target => [target]
  | .pushAll targets => targets

theorem Action.mem_delegates_byGroups {groups : List GroupAction} {delegate : Delegate} :
    delegate ∈ (Action.byGroups groups).delegates ↔ .delegate delegate ∈ groups := by
  simp only [delegates, List.mem_flatMap]
  constructor
  · rintro ⟨group, member, same⟩
    cases group with
    | delegate found =>
      cases List.mem_singleton.mp same
      exact member
    | kind _ | skip => cases same
  · intro member
    exact ⟨_, member, List.mem_singleton_self _⟩

theorem Action.mem_delegates_iff {action : Action} {delegate : Delegate} :
    delegate ∈ action.delegates ↔ .delegate delegate ∈ action.partActions := by
  cases action with
  | token kind => simp [delegates, partActions]
  | delegate nested => simp [delegates, partActions]
  | byGroups groups => exact mem_delegates_byGroups

namespace BuildContext

variable {context : BuildContext} {state : String}

/-- The table that a delegate names is there, and so is the state of it that the delegate names. -/
def Knows (context : BuildContext) (delegate : Delegate) : Prop :=
  match delegate.target with
  | .this => ∀ start ∈ delegate.state, context.hasState start
  | .entry position => ∃ table, context.library[position]? = some table ∧
    ∀ start ∈ delegate.state, table.hasState start

/-- A compiled rule that can be run: it does not idle, its actions are as many as its groups, and
whatever it names is there. -/
structure Fits (context : BuildContext) (rule : Rule) : Prop where
  moves : ¬(rule.pattern.canMatchEmpty ∧ rule.next = .stay)
  grouped : ∀ actions, rule.action = .byGroups actions → actions.length = rule.pattern.groupCount
  delegates : ∀ delegate ∈ rule.action.delegates, context.Knows delegate
  targets : ∀ target ∈ rule.next.targets, context.hasState target

/-- A rule fits a context with the same library and more states as well. -/
theorem Fits.mono {other : BuildContext} {rule : Rule} (fits : context.Fits rule)
    (library : other.library = context.library)
    (states : ∀ name, context.hasState name → other.hasState name) : other.Fits rule := by
  refine ⟨fits.moves, fits.grouped, ?_, ?_⟩
  · intro delegate member
    have known := fits.delegates delegate member
    unfold Knows at known ⊢
    cases named : delegate.target with
    | this =>
      simp only [named] at known ⊢
      exact fun start chosen => states start (known start chosen)
    | entry position => simpa only [named, library] using known
  · intro target member
    exact states target (fits.targets target member)

/-! ### Checks -/

/-- Checks made one after the other pass if each of them does. -/
theorem forM_eq_ok_iff {α : Type} {check : α → Except TableError Unit} {values : List α} :
    values.forM check = .ok () ↔ ∀ value ∈ values, check value = .ok () := by
  induction values with
  | nil => simp [pure, Except.pure]
  | cons value rest ih =>
    rw [List.forall_mem_cons, ← ih]
    refine bind_eq_ok_iff.trans ⟨?_, ?_⟩
    · rintro ⟨⟨⟩, passed, others⟩
      exact ⟨passed, others⟩
    · rintro ⟨passed, others⟩
      exact ⟨(), passed, others⟩

theorem checkState_eq_ok_iff {target : String} :
    context.checkState state target = .ok () ↔ context.hasState target := by
  unfold checkState
  split <;> simp_all

theorem checkDelegate_eq_ok_iff {delegate : Delegate} :
    context.checkDelegate state delegate = .ok () ↔ context.Knows delegate := by
  unfold checkDelegate Knows
  cases delegate.target with
  | this =>
    cases delegate.state with
    | none => simp
    | some start => simpa using checkState_eq_ok_iff
  | entry position =>
    dsimp only
    cases context.library[position]? with
    | none => simp
    | some table =>
      cases delegate.state with
      | none => simp
      | some start =>
        dsimp only
        split <;> simp_all

theorem checkGroup_eq_ok_iff {group : GroupAction} :
    context.checkGroup state group = .ok () ↔
      ∀ delegate, group = .delegate delegate → context.Knows delegate := by
  cases group with
  | kind _ | skip => simp [checkGroup]
  | delegate delegate => simpa [checkGroup] using checkDelegate_eq_ok_iff

theorem checkAction_eq_ok_iff {pattern : Pattern} {action : Action} :
    context.checkAction state pattern action = .ok () ↔
      (∀ actions, action = .byGroups actions → actions.length = pattern.groupCount) ∧
        ∀ delegate ∈ action.delegates, context.Knows delegate := by
  cases action with
  | token kind => simp [checkAction, Action.delegates]
  | delegate delegate => simpa [checkAction, Action.delegates] using checkDelegate_eq_ok_iff
  | byGroups groups =>
    have each : groups.forM (context.checkGroup state) = .ok () ↔
        ∀ delegate ∈ (Action.byGroups groups).delegates, context.Knows delegate := by
      simp only [forM_eq_ok_iff, checkGroup_eq_ok_iff, Action.mem_delegates_byGroups]
      constructor
      · intro known delegate member
        exact known _ member delegate rfl
      · rintro known group member delegate rfl
        exact known delegate member
    rw [checkAction, ← each]
    split <;> simp_all

theorem checkTransition_eq_ok_iff {next : Transition} :
    context.checkTransition state next = .ok () ↔
      ∀ target ∈ next.targets, context.hasState target := by
  cases next with
  | stay | pushCurrent | pop _ => simp [checkTransition, Transition.targets]
  | push target => simpa [checkTransition, Transition.targets] using checkState_eq_ok_iff
  | pushAll targets =>
    simp only [checkTransition, Transition.targets, forM_eq_ok_iff, checkState_eq_ok_iff]

/-! ### Rules -/

theorem fits_iff {rule : Rule} :
    context.Fits rule ↔ ¬(rule.pattern.canMatchEmpty ∧ rule.next = .stay) ∧
      context.checkAction state rule.pattern rule.action = .ok () ∧
        context.checkTransition state rule.next = .ok () := by
  rw [checkAction_eq_ok_iff, checkTransition_eq_ok_iff]
  constructor
  · rintro ⟨moves, grouped, delegates, targets⟩
    exact ⟨moves, ⟨grouped, delegates⟩, targets⟩
  · rintro ⟨moves, ⟨grouped, delegates⟩, targets⟩
    exact ⟨moves, grouped, delegates, targets⟩

/-- A rule is taken exactly if its pattern compiles and the rule fits. -/
theorem compileRule_eq_ok_iff {source : String} {action : Action} {next : Transition}
    {rule : Rule} :
    context.compileRule state source action next = .ok rule ↔
      ∃ pattern, Pattern.compile context.options source = .ok pattern ∧
        context.Fits ⟨pattern, action, next⟩ ∧ rule = ⟨pattern, action, next⟩ := by
  unfold compileRule
  cases Pattern.compile context.options source with
  | error cause => simp
  | ok pattern =>
    simp only [Except.ok.injEq, exists_eq_left', @fits_iff context state]
    by_cases idles : pattern.canMatchEmpty ∧ next = .stay
    · simp [idles, throw, throwThe, MonadExceptOf.throw, bind, Except.bind]
    · simp only [idles, if_false, not_false_eq_true, true_and, bind, Except.bind, pure, Except.pure]
      cases context.checkAction state pattern action with
      | error cause => simp
      | ok _ => cases context.checkTransition state next <;> simp [eq_comm]

end BuildContext

end RuleLexer
