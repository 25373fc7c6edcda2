import RuleLexer.Proofs.Regex.Consumption
import RuleLexer.Proofs.Table.Admission

/-!
# Rules that a table refuses

A rule is refused for its pattern, for idling, for its actions or for a state that it names.
Whatever it is refused for, the error names the state that the rule was compiled for, and if the
error shows a pattern, it shows the whole text of the rule's pattern with its look-behind.

## Main results

* `BuildContext.compileRule_eq_emptyMatch_iff`: which rules are refused for idling.
* `BuildContext.Refuses.names`: the error of an entry names the state of the entry and the pattern
  of the entry.
-/
namespace RuleLexer

namespace TableError

/-- The state that an error names as the place of what is wrong. -/
def state? : TableError → Option String
  | unknownState state _ | unknownTable state _ | invalidPattern state _ _ | emptyMatch state _
  | groupArity state _ _ _ => some state
  | invalidDefinition _ | missingRoot _ | circularInclude _ => none

/-- The text of the pattern that an error is about. -/
def pattern? : TableError → Option String
  | invalidPattern _ pattern _ | emptyMatch _ pattern | groupArity _ pattern _ _ => some pattern
  | unknownState _ _ | unknownTable _ _ | invalidDefinition _ | missingRoot _ | circularInclude _ =>
    none

/-- An error is about something in a state, and if it shows a pattern, then it shows this one. -/
def Blames (state source : String) (error : TableError) : Prop :=
  error.state? = some state ∧ ∀ pattern ∈ error.pattern?, pattern = source

/-- An error is about what is done with a match, and not about the pattern or about idling. -/
def Faults (state source : String) (error : TableError) : Prop :=
  error.Blames state source ∧ ∀ name shown, error ≠ .emptyMatch name shown

end TableError

/-- Checks made one after the other fail with the error of one of them. -/
theorem exists_mem_of_forM_eq_error {α ε : Type} {check : α → Except ε Unit} {values : List α}
    {cause : ε} (failed : values.forM check = .error cause) :
    ∃ value ∈ values, check value = .error cause := by
  induction values with
  | nil => cases failed
  | cons value rest ih =>
    rcases bind_eq_error_iff.mp failed with here | ⟨_, _, later⟩
    · exact ⟨value, List.mem_cons_self, here⟩
    · obtain ⟨other, member, there⟩ := ih later
      exact ⟨other, List.mem_cons_of_mem _ member, there⟩

namespace BuildContext

variable {context : BuildContext} {state source : String} {action : Action} {next : Transition}
  {error : TableError}

theorem faults_of_checkState {target : String}
    (failed : context.checkState state target = .error error) : error.Faults state source := by
  unfold checkState at failed
  split at failed
  · cases failed
  · cases failed
    exact ⟨⟨rfl, nofun⟩, nofun⟩

theorem faults_of_checkDelegate {delegate : Delegate}
    (failed : context.checkDelegate state delegate = .error error) :
    error.Faults state source := by
  unfold checkDelegate at failed
  split at failed
  · split at failed
    · cases failed
    · exact faults_of_checkState failed
  · split at failed
    · cases failed
      exact ⟨⟨rfl, nofun⟩, nofun⟩
    · cases failed
    · split at failed
      · cases failed
      · cases failed
        exact ⟨⟨rfl, nofun⟩, nofun⟩

theorem faults_of_checkAction {pattern : Pattern}
    (failed : context.checkAction state pattern action = .error error) :
    error.Faults state pattern.source := by
  cases action with
  | token kind => cases failed
  | delegate delegate => exact faults_of_checkDelegate failed
  | byGroups groups =>
    rw [checkAction] at failed
    split at failed
    · obtain ⟨group, -, failed⟩ := exists_mem_of_forM_eq_error failed
      cases group with
      | kind _ | skip => cases failed
      | delegate delegate => exact faults_of_checkDelegate failed
    · cases failed
      refine ⟨⟨rfl, by simp [TableError.pattern?]⟩, ?_⟩
      intro name shown same
      cases same

theorem faults_of_checkTransition (failed : context.checkTransition state next = .error error) :
    error.Faults state source := by
  cases next with
  | stay | pushCurrent | pop _ => cases failed
  | push target => exact faults_of_checkState failed
  | pushAll targets =>
    obtain ⟨target, -, failed⟩ := exists_mem_of_forM_eq_error failed
    exact faults_of_checkState failed

/-- A rule is refused for its pattern, for idling, or for what is done with a match. -/
theorem compileRule_eq_error
    (failed : context.compileRule state source action next = .error error) :
    (∃ cause, error = .invalidPattern state source cause) ∨
    (∃ pattern, Pattern.compile context.options source = .ok pattern ∧ pattern.canMatchEmpty ∧
      next = .stay ∧ error = .emptyMatch state source) ∨
    error.Faults state source := by
  unfold compileRule at failed
  split at failed
  next cause refused =>
    cases failed
    exact .inl ⟨cause, rfl⟩
  next pattern compiled =>
    obtain ⟨-, -, -, -, -, same⟩ := Pattern.compile_eq_ok compiled
    dsimp only at failed
    split at failed
    next idles =>
      cases failed
      exact .inr (.inl ⟨pattern, compiled, idles.1, idles.2, rfl⟩)
    next =>
      rcases bind_eq_error_iff.mp failed with failed | ⟨_, _, failed⟩
      · exact .inr (.inr (same ▸ faults_of_checkAction failed))
      · rcases bind_eq_error_iff.mp failed with failed | ⟨_, _, done⟩
        · exact .inr (.inr (faults_of_checkTransition failed))
        · cases done

/-- The error of a rule names the state that it was compiled for and the text of its pattern. -/
theorem blames_of_compileRule
    (failed : context.compileRule state source action next = .error error) :
    error.Blames state source := by
  rcases compileRule_eq_error failed with ⟨cause, rfl⟩ | ⟨pattern, -, -, -, rfl⟩ | faults
  · exact ⟨rfl, by simp [TableError.pattern?]⟩
  · exact ⟨rfl, by simp [TableError.pattern?]⟩
  · exact faults.1

/-- A rule is refused for idling exactly if it stays and its pattern can match the empty text. -/
theorem compileRule_eq_emptyMatch_iff {name shown : String} :
    context.compileRule state source action next = .error (.emptyMatch name shown) ↔
      name = state ∧ shown = source ∧ next = .stay ∧
        ∃ pattern, Pattern.compile context.options source = .ok pattern ∧
          pattern.canMatchEmpty := by
  constructor
  · intro failed
    rcases compileRule_eq_error failed with ⟨_, same⟩ | ⟨pattern, compiled, empty, stays, same⟩ |
      faults
    · cases same
    · cases same
      exact ⟨rfl, rfl, stays, pattern, compiled, empty⟩
    · exact absurd rfl (faults.2 name shown)
  · rintro ⟨rfl, rfl, rfl, pattern, compiled, empty⟩
    simp [compileRule, compiled, empty, throw, throwThe, MonadExceptOf.throw, bind, Except.bind]

/-- What is wrong with an entry where it stands. -/
def Refuses (context : BuildContext) (state : String) (entry : RuleDef) (error : TableError) :
    Prop :=
  match entry with
  | .rule source action next => context.compileRule state source action next = .error error
  | .includeState target =>
    context.stateDef? target = none ∧ error = .unknownState state target

/-- The error of an entry names the state of the entry, and if it shows a pattern, then the entry is
a rule with this pattern. -/
theorem Refuses.names {entry : RuleDef} (refuses : context.Refuses state entry error) :
    error.state? = some state ∧
      ∀ pattern ∈ error.pattern?, ∃ action next, entry = .rule pattern action next := by
  cases entry with
  | rule source action next =>
    obtain ⟨named, shown⟩ := blames_of_compileRule refuses
    refine ⟨named, fun pattern member => ?_⟩
    rw [shown pattern member]
    exact ⟨action, next, rfl⟩
  | includeState target =>
    obtain ⟨-, rfl⟩ := refuses
    exact ⟨rfl, nofun⟩

end BuildContext

end RuleLexer
