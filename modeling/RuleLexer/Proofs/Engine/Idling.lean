import RuleLexer.Proofs.Document.Notation
import RuleLexer.Proofs.Engine.Progress
import RuleLexer.Proofs.Engine.StackLaw
import RuleLexer.Proofs.Table.Splicing

/-!
# Idling

A rule that matches the empty text and leaves the stack as it is would fire at the same place again.
A build refuses it if its transition is to stay. But staying is not the only transition that leaves
every stack as it is: to pop no states and to push none after the other do so as well, and these are
not looked for. Documents cannot say the first, but they can say the second, by an empty list.

## Main results

* `Transition.idle_iff`: there are these three transitions that leave every stack as it is.
* `TableDef.build_refuses_idle`: apart from the two that are not looked for, no rule of a table that
  has been built idles.
-/
namespace RuleLexer

/-- Leaves every stack as it is, however high stacks may be. -/
def Transition.Idle (next : Transition) : Prop :=
  ∀ limit (stack : StateStack), stack.apply limit next = stack

/-- What a build looks for is only one of the transitions that idle. -/
theorem Transition.idle_iff {next : Transition} :
    next.Idle ↔ next = .stay ∨ next = .pop 0 ∨ next = .pushAll [] := by
  constructor
  · intro idle
    have names (limit : Nat) (stack : StateStack) :
        next.applied limit stack.toList = stack.toList := by
      rw [← StateStack.toList_apply, idle limit stack]
    -- With room for one more state a push is seen, and with one state above the bottom a pop.
    have pushed := names 2 (.ofBottom "")
    have popped := names 2 ⟨"", [""]⟩
    cases next with
    | stay => exact .inl rfl
    | push state => simp [applied, StateStack.toList, StateStack.ofBottom] at pushed
    | pushCurrent => simp [applied, StateStack.toList, StateStack.ofBottom] at pushed
    | pop count =>
      cases count with
      | zero => exact .inr (.inl rfl)
      | succ count => simp [applied, StateStack.toList] at popped
    | pushAll states =>
      cases states with
      | nil => exact .inr (.inr rfl)
      | cons state states => simp [applied, StateStack.toList, StateStack.ofBottom] at pushed
  · rintro (rfl | rfl | rfl) limit stack <;> rfl

namespace NextDocument

/-- A directive or a name means to push one state or to pop some. -/
theorem not_idle_of_targetTransition {target : String} {next : Transition}
    (read : targetTransition target = .ok next) : ¬next.Idle := by
  rw [Transition.idle_iff]
  unfold targetTransition at read
  split at read
  · cases read
    simp
  · cases read
    simp
  · split at read
    next count counted =>
      cases read
      have positive := (popCount?_eq_some counted).1
      simp only [Transition.pop.injEq, reduceCtorEq, or_false, false_or]
      omega
    next => cases read
  · cases read
  · cases read
    simp

/-- An entry of a document idles if it does not say where to go, or gives an empty list. -/
theorem exists_idle_transitionOf_iff {written : Option NextDocument} :
    (∃ next, transitionOf written = .ok next ∧ next.Idle) ↔
      written = none ∨ written = some (.many []) := by
  constructor
  · rintro ⟨next, read, idle⟩
    rcases written with _ | target | states
    · exact .inl rfl
    · exact absurd idle (not_idle_of_targetTransition read)
    · right
      simp only [transitionOf, NextDocument.transition] at read
      split at read
      · cases read
      · cases read
        rcases Transition.idle_iff.mp idle with same | same | same <;> cases same
        rfl
  · rintro (rfl | rfl)
    · exact ⟨_, rfl, Transition.idle_iff.mpr (.inl rfl)⟩
    · exact ⟨_, rfl, Transition.idle_iff.mpr (.inr (.inr rfl))⟩

end NextDocument

/-- A rule that may idle is taken exactly if it does not say that it stays and its action fits. -/
theorem BuildContext.exists_compileRule_of_idle {context : BuildContext} {state source : String}
    {action : Action} {next : Transition} {pattern : Pattern}
    (compiled : Pattern.compile context.options source = .ok pattern)
    (empty : pattern.canMatchEmpty) (idle : next.Idle) :
    (∃ rule, context.compileRule state source action next = .ok rule) ↔
      (next = .pop 0 ∨ next = .pushAll []) ∧ context.checkAction state pattern action = .ok () := by
  have targets : context.checkTransition state next = .ok () := by
    rcases Transition.idle_iff.mp idle with rfl | rfl | rfl <;> rfl
  have other : next ≠ .stay ↔ next = .pop 0 ∨ next = .pushAll [] := by
    rcases Transition.idle_iff.mp idle with rfl | rfl | rfl <;> simp
  simp only [compileRule_eq_ok_iff, compiled, Except.ok.injEq, exists_eq_left',
    exists_and_left, exists_eq, and_true]
  rw [@fits_iff context state, ← other]
  simp [empty, targets]

namespace TableDef

variable {library : Library} {definition : TableDef} {table : RuleTable}

/-- A definition with a rule that does not compile or does not fit is not built. -/
theorem exists_error_of_unfit {state : StateDef} {source : String} {action : Action}
    {next : Transition} (defined : state ∈ definition.states)
    (member : .rule source action next ∈ state.entries)
    (unfit : ∀ pattern, Pattern.compile definition.options.patterns source = .ok pattern →
      ¬(definition.context library).Fits ⟨pattern, action, next⟩) :
    ∃ error, definition.build library = .error error := by
  cases done : definition.build library with
  | error error => exact ⟨error, rfl⟩
  | ok table =>
    obtain ⟨distinct, -, -, -, stand⟩ := build_eq_ok_iff.mp done
    have known : (definition.context library).Known state :=
      BuildContext.known_of_mem distinct defined
    obtain ⟨pattern, compiled, fits⟩ :=
      (BuildContext.resolvable_of_stands stand).taken state known source action next member
    exact absurd fits (unfit pattern compiled)

/-- A build that fails for idling shows the pattern of a rule that stays in the state that it
names. -/
theorem exists_staying_of_emptyMatch {name source : String}
    (failed : definition.build library = .error (.emptyMatch name source)) :
    ∃ state ∈ definition.states, state.name = name ∧
      ∃ action, .rule source action .stay ∈ state.entries ∧
        ∃ pattern, Pattern.compile definition.options.patterns source = .ok pattern ∧
          pattern.canMatchEmpty := by
  obtain ⟨distinct, state, member, breaks⟩ :=
    ((exists_breaks failed).resolve_left nofun).resolve_left nofun
  have known : (definition.context library).Known state :=
    BuildContext.known_of_mem distinct member
  rcases breaks.exists_entry known with ⟨path, other, cycle⟩ |
    ⟨origin, defined, entry, here, refuses⟩
  · cases cycle
  · cases entry with
    | includeState target => exact absurd refuses.2 nofun
    | rule spelled action next =>
      obtain ⟨rfl, rfl, rfl, idles⟩ := BuildContext.compileRule_eq_emptyMatch_iff.mp refuses
      exact ⟨origin, defined, rfl, action, here, idles⟩

/-- **Idling.** The transitions that leave every stack as it is, whatever the limit, are to stay, to
pop no states and to push none after the other. No definition with a rule that stays and whose
pattern can match the empty text is built; of the rules of a table that leave every stack as it is,
only those that pop or push none can match the empty text, and all others consume wherever they
match, if their patterns have no empty set. A rule that pops or pushes none is taken as if it moved:
only its action is checked. Documents can say this with an empty list and in no other way. -/
theorem build_refuses_idle (library : Library) (definition : TableDef) :
    (∀ next : Transition, next.Idle ↔ next = .stay ∨ next = .pop 0 ∨ next = .pushAll []) ∧
    (∀ state ∈ definition.states, ∀ source action next pattern,
      .rule source action next ∈ state.entries →
      Pattern.compile definition.options.patterns source = .ok pattern → pattern.canMatchEmpty →
      next.Idle → next ≠ .pop 0 → next ≠ .pushAll [] →
        ∃ error, definition.build library = .error error) ∧
    (∀ table, definition.build library = .ok table →
      ∀ state ∈ table.states, ∀ rule ∈ state.rules, rule.next.Idle →
        rule.next ≠ .pop 0 → rule.next ≠ .pushAll [] → rule.pattern.canMatchEmpty = false ∧
          (rule.pattern.Populated table.options.patterns →
            ∀ text offset found, rule.pattern.matchAt text offset = .ok (some found) →
              offset < found.stop)) ∧
    (∀ state source action next pattern,
      Pattern.compile definition.options.patterns source = .ok pattern → pattern.canMatchEmpty →
      next.Idle →
        ((∃ rule, (definition.context library).compileRule state source action next = .ok rule) ↔
          (next = .pop 0 ∨ next = .pushAll []) ∧
            (definition.context library).checkAction state pattern action = .ok ())) ∧
    ∀ written, (∃ next, NextDocument.transitionOf written = .ok next ∧ next.Idle) ↔
      written = none ∨ written = some (.many []) := by
  have stays {next : Transition} (idle : next.Idle) (pop : next ≠ .pop 0)
      (push : next ≠ .pushAll []) : next = .stay := by
    rcases Transition.idle_iff.mp idle with same | same | same
    · exact same
    · exact absurd same pop
    · exact absurd same push
  refine ⟨fun next => Transition.idle_iff, ?_, ?_, ?_, ?_⟩
  · intro state defined source action next pattern member compiled empty idle pop push
    apply exists_error_of_unfit defined member
    intro other again fits
    cases compiled.symm.trans again
    exact fits.moves ⟨empty, stays idle pop push⟩
  · intro table done state known rule inside idle pop push
    have admits := (RuleTable.closed_of_build done).rules state known rule inside
    have still := stays idle pop push
    constructor
    · rw [Bool.eq_false_iff]
      exact fun empty => admits.moves ⟨empty, still⟩
    · intro populated text offset found matched
      obtain ⟨before, after, here, -, matchedHere, stop⟩ := Pattern.matchAt_eq_some matched
      have positive := admits.stop_pos still populated matchedHere
      omega
  · intro state source action next pattern compiled empty idle
    exact BuildContext.exists_compileRule_of_idle compiled empty idle
  · intro written
    exact NextDocument.exists_idle_transitionOf_iff

/-- Letters or nothing, and to stay. -/
theorem build_refuses_idle_of_letters :
    let root : StateDef := ⟨"root", [.staying "[a-z]*" (.token .name)]⟩
    let definition : TableDef := ⟨"letters", {}, [root]⟩
    Transition.stay.Idle ∧ ∃ error, definition.build [] = .error error := by
  intro root definition
  have idle : Transition.stay.Idle := fun _ _ => rfl
  obtain ⟨pattern, compiled, empty⟩ : ∃ pattern,
      Pattern.compile definition.options.patterns "[a-z]*" = .ok pattern ∧
        pattern.canMatchEmpty := ⟨_, rfl, rfl⟩
  have refused := (build_refuses_idle [] definition).2.1 root (by simp [definition]) "[a-z]*"
    (.token .name) .stay pattern (by simp [root, RuleDef.staying]) compiled empty idle
  exact ⟨idle, refused (by decide) (by decide)⟩

/-- Two rules that always match and only change the state, by popping and by pushing no states: they
match the empty text and leave every stack as it is, but they are taken. -/
theorem exists_idle_rules_taken :
    let nothing : Pattern := ⟨"", none, .done, 0, some 0⟩
    let rules : List Rule :=
      [⟨nothing, .token .text, .pop 0⟩, ⟨nothing, .token .text, .pushAll []⟩]
    (⟨"idle", {}, [⟨"root", [.always (.pop 0), .always (.pushAll [])]⟩]⟩ : TableDef).build [] =
      .ok ⟨"idle", {}, [⟨"root", rules⟩]⟩ ∧
    ∀ rule ∈ rules, rule.pattern.canMatchEmpty ∧ rule.next.Idle ∧
      rule.pattern.matchAt ['a'] 0 = .ok (some ⟨0, []⟩) := by
  intro nothing rules
  refine ⟨rfl, ?_⟩
  have matched : nothing.matchAt ['a'] 0 = .ok (some ⟨0, []⟩) := by decide +kernel
  rw [List.forall_mem_cons, List.forall_mem_singleton]
  exact ⟨⟨rfl, fun _ _ => rfl, matched⟩, rfl, fun _ _ => rfl, matched⟩

end TableDef

end RuleLexer
