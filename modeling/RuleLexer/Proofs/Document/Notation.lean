import Mathlib.Algebra.Group.Nat.Defs
import RuleLexer.Document.Entry
import RuleLexer.Proofs.Number.Digits
import RuleLexer.Proofs.Table.Admission
import RuleLexer.Proofs.Token.Kind

/-!
# What documents can say

The entries of a document are a notation for rules, and not every rule has one: a document is about
one table, so it cannot name another one, and its directives share their place with the names of
states and kinds, so a name that looks like a directive cannot be written down. Whatever a part of a
rule is written with, it is read on its own, so each part is settled by itself, from the delegates
up to the rule.

## Main result

`exists_entry_iff`: the rules that entries stand for are exactly those that are made of such parts.
-/
namespace RuleLexer

/-! ### Parts that can be written -/

/-- A sign at the front tells a directive from a name. -/
def IsPlainName (name : String) : Prop := name.toList.head? ≠ some '#'

/-- Only the same table can be named. The root state is what is meant when no state is named, so
naming it is the same as not naming it. -/
def Delegate.IsNotated (delegate : Delegate) : Prop :=
  delegate.target = .this ∧
    ∀ state, delegate.state = some state → state ≠ "" ∧ state ≠ "root"

def GroupAction.IsNotated : GroupAction → Prop
  | kind _ | skip => True
  | delegate nested => nested.IsNotated

def Action.IsNotated : Action → Prop
  | token _ => True
  | byGroups groups => ∀ group ∈ groups, group.IsNotated
  | delegate nested => nested.IsNotated

/-- Counts are numbers of 64 bits wherever they occur. -/
def Transition.IsNotated : Transition → Prop
  | stay | pushCurrent => True
  | pop count => 1 ≤ count ∧ count < 2 ^ 64
  | push state => IsPlainName state
  | pushAll states => ∀ state ∈ states, IsPlainName state

def RuleDef.IsNotated : RuleDef → Prop
  | includeState _ => True
  | rule _ action next => action.IsNotated ∧ next.IsNotated

/-- The lists that a reader of items gives are those of the items that it gives. -/
theorem exists_mapM_eq_ok_iff {α β ε : Type} {read : α → Except ε β} {results : List β} :
    (∃ items : List α, items.mapM read = .ok results) ↔
      ∀ result ∈ results, ∃ item, read item = .ok result := by
  induction results with
  | nil => exact ⟨fun _ _ member => absurd member List.not_mem_nil, fun _ => ⟨[], rfl⟩⟩
  | cons result results ih =>
    rw [List.forall_mem_cons, ← ih]
    constructor
    · rintro ⟨items, given⟩
      cases items with
      | nil => cases given
      | cons item items =>
        rw [List.mapM_cons] at given
        obtain ⟨value, first, given⟩ := bind_eq_ok_iff.mp given
        obtain ⟨values, further, given⟩ := bind_eq_ok_iff.mp given
        cases given
        exact ⟨⟨item, first⟩, items, further⟩
    · rintro ⟨⟨item, first⟩, items, further⟩
      refine ⟨item :: items, ?_⟩
      rw [List.mapM_cons, first, further]
      rfl

namespace NextDocument

/-! ### Transitions -/

theorem popCount?_eq_some {digits : List Char} {count : Nat}
    (read : popCount? digits = some count) :
    1 ≤ count ∧ count < 2 ^ 64 := by
  have bounds := (Option.filter_eq_some_iff.mp read).2
  exact of_decide_eq_true bounds

theorem popCount?_toDigits {count : Nat} (positive : 1 ≤ count) (small : count < 2 ^ 64) :
    popCount? (Nat.toDigits 10 count) = some count := by
  have unsigned : (Nat.toDigits 10 count).head? ≠ some '+' := by
    intro signed
    have digit := Number.isDigit_of_mem_toDigits (List.mem_of_head? signed)
    cases digit
  have bounds : 0 < count ∧ count < Nat.pow 2 64 := ⟨positive, small⟩
  simp only [popCount?, if_neg unsigned, Number.ofDigits?_toDigits (by decide : 1 < 10) (by decide)]
  simp [bounds]

theorem targetTransition_isNotated {target : String} {transition : Transition}
    (read : targetTransition target = .ok transition) : transition.IsNotated := by
  unfold targetTransition at read
  split at read
  · cases read
    exact ⟨Nat.le_refl 1, by decide⟩
  · cases read
    trivial
  · split at read
    next count counted =>
      cases read
      exact popCount?_eq_some counted
    next => cases read
  · cases read
  next noDirective =>
    cases read
    intro sign
    obtain ⟨rest, spelled⟩ := List.head?_eq_some_iff.mp sign
    exact noDirective rest spelled

theorem targetTransition_of_isPlainName {state : String} (plain : IsPlainName state) :
    targetTransition state = .ok (.push state) := by
  unfold targetTransition
  split
  all_goals first | rfl | (rename_i spelled; simp [IsPlainName, spelled] at plain)

theorem targetTransition_pop {count : Nat} (positive : 1 ≤ count) (small : count < 2 ^ 64) :
    targetTransition (String.ofList (['#', 'p', 'o', 'p', ':'] ++ Nat.toDigits 10 count)) =
      .ok (.pop count) := by
  simp [targetTransition, popCount?_toDigits positive small]

theorem exists_transitionOf_iff {transition : Transition} :
    (∃ next, transitionOf next = .ok transition) ↔ transition.IsNotated := by
  constructor
  · rintro ⟨_ | _ | states, read⟩
    · cases read
      trivial
    · exact targetTransition_isNotated read
    · simp only [transitionOf, NextDocument.transition] at read
      split at read
      · cases read
      next plain =>
        cases read
        intro state member sign
        simpa [isDirective, sign] using List.find?_eq_none.mp plain state member
  · intro notated
    cases transition with
    | stay => exact ⟨none, rfl⟩
    | push state => exact ⟨some (.one state), targetTransition_of_isPlainName notated⟩
    | pushCurrent => exact ⟨some (.one "#push"), rfl⟩
    | pop count => exact ⟨some (.one _), targetTransition_pop notated.1 notated.2⟩
    | pushAll states =>
      refine ⟨some (.many states), ?_⟩
      have each : ∀ state ∈ states, state.toList.head? ≠ some '#' := notated
      have plain : states.find? isDirective = none := by
        simpa [List.find?_eq_none, isDirective] using each
      simp [transitionOf, NextDocument.transition, plain]

end NextDocument

namespace EntryDocument

/-! ### Actions -/

theorem exists_delegateFrom_iff {delegate : Delegate} :
    (∃ state, delegateFrom state = delegate) ↔ delegate.IsNotated := by
  constructor
  · rintro ⟨state, rfl⟩
    refine ⟨rfl, fun named same => ?_⟩
    simp only [delegateFrom] at same
    split at same
    · cases same
    next proper =>
      cases same
      exact not_or.mp proper
  · obtain ⟨target, state⟩ := delegate
    rintro ⟨rfl, proper⟩
    cases state with
    | none => exact ⟨"", by simp [delegateFrom]⟩
    | some state =>
      refine ⟨state, ?_⟩
      rw [delegateFrom, if_neg (not_or.mpr (proper state rfl))]

theorem parseKind_dottedName (kind : TokenKind) : parseKind kind.dottedName = .ok kind := by
  rw [parseKind, TokenKind.parse_dottedName]
  rfl

theorem groupAction_of_isPlainName {name : String} (plain : IsPlainName name) :
    groupAction (some name) = (parseKind name).map .kind := by
  simp only [groupAction]
  split
  all_goals first | rfl | (rename_i spelled; simp [IsPlainName, spelled] at plain)

theorem isPlainName_dottedName (kind : TokenKind) : IsPlainName kind.dottedName := by
  intro sign
  rcases TokenKind.isAlpha_of_mem_dottedName (List.mem_of_head? sign) with letter | dot
  · cases letter
  · cases dot

theorem exists_groupAction_iff {action : GroupAction} :
    (∃ group, groupAction group = .ok action) ↔ action.IsNotated := by
  constructor
  · rintro ⟨_ | directive, read⟩
    · cases read
      trivial
    · simp only [groupAction] at read
      split at read
      · cases read
        exact exists_delegateFrom_iff.mp ⟨_, rfl⟩
      · cases read
        exact exists_delegateFrom_iff.mp ⟨_, rfl⟩
      · cases known : parseKind directive with
        | error cause => rw [known] at read; cases read
        | ok kind => rw [known] at read; cases read; trivial
  · intro notated
    cases action with
    | kind kind =>
      refine ⟨some kind.dottedName, ?_⟩
      rw [groupAction_of_isPlainName (isPlainName_dottedName kind), parseKind_dottedName]
      rfl
    | delegate delegate =>
      -- The directive with a colon names the state, and the empty name stands for the root.
      obtain ⟨state, rfl⟩ := exists_delegateFrom_iff.mpr notated
      refine ⟨some (String.ofList (['#', 'u', 's', 'i', 'n', 'g', ':'] ++ state.toList)), ?_⟩
      simp [groupAction]
    | skip => exact ⟨none, rfl⟩

theorem exists_patternAction_iff (source : String) {action : Action} :
    (∃ token groups start, patternAction source token groups start = .ok action) ↔
      action.IsNotated := by
  constructor
  · rintro ⟨token, groups, start, read⟩
    unfold patternAction at read
    split at read
    next token =>
      cases known : parseKind token with
      | error cause => rw [known] at read; cases read
      | ok kind => rw [known] at read; cases read; trivial
    next groups =>
      cases known : groups.mapM groupAction with
      | error cause => rw [known] at read; cases read
      | ok actions =>
        rw [known] at read
        cases read
        have each := exists_mapM_eq_ok_iff.mp ⟨groups, known⟩
        exact fun group member => exists_groupAction_iff.mp (each group member)
    next state =>
      cases read
      exact exists_delegateFrom_iff.mp ⟨state, rfl⟩
    next => cases read
  · intro notated
    cases action with
    | token kind =>
      refine ⟨some kind.dottedName, none, none, ?_⟩
      rw [patternAction, parseKind_dottedName]
      rfl
    | byGroups actions =>
      obtain ⟨groups, read⟩ := exists_mapM_eq_ok_iff.mpr fun action member =>
        exists_groupAction_iff.mpr (notated action member)
      refine ⟨none, some groups, none, ?_⟩
      rw [patternAction, read]
      rfl
    | delegate delegate =>
      obtain ⟨state, rfl⟩ := exists_delegateFrom_iff.mpr notated
      exact ⟨none, none, some state, rfl⟩

/-! ### Rules -/

theorem ruleDef_isNotated {entry : EntryDocument} {rule : RuleDef}
    (read : entry.ruleDef = .ok rule) : rule.IsNotated := by
  cases entry with
  | includeState state =>
    cases read
    trivial
  | words list lead tail token next =>
    obtain ⟨kind, -, read⟩ := bind_eq_ok_iff.mp read
    obtain ⟨transition, moved, read⟩ := bind_eq_ok_iff.mp read
    cases read
    exact ⟨trivial, NextDocument.exists_transitionOf_iff.mp ⟨next, moved⟩⟩
  | pattern source token groups start next =>
    obtain ⟨action, acted, read⟩ := bind_eq_ok_iff.mp read
    obtain ⟨transition, moved, read⟩ := bind_eq_ok_iff.mp read
    cases read
    exact ⟨(exists_patternAction_iff source).mp ⟨token, groups, start, acted⟩,
      NextDocument.exists_transitionOf_iff.mp ⟨next, moved⟩⟩
  | always next =>
    obtain ⟨transition, moved, read⟩ := bind_eq_ok_iff.mp read
    cases read
    exact ⟨trivial, NextDocument.exists_transitionOf_iff.mp ⟨some next, moved⟩⟩

/-- **The notation of documents.** A rule is what some entry of a document stands for exactly if it
includes a state, or its action delegates to the same table only, from the root state without naming
it or from a state that is named, and its transition takes at least one state off if it takes any,
and pushes no state whose name looks like a directive. -/
theorem exists_entry_iff (rule : RuleDef) :
    (∃ entry : EntryDocument, entry.ruleDef = .ok rule) ↔ rule.IsNotated := by
  constructor
  · rintro ⟨entry, read⟩
    exact ruleDef_isNotated read
  · intro notated
    cases rule with
    | includeState state => exact ⟨.includeState state, rfl⟩
    | rule source action transition =>
      -- An entry with a pattern is enough for every rule.
      obtain ⟨token, groups, start, acted⟩ :=
        (exists_patternAction_iff source).mpr notated.1
      obtain ⟨next, moved⟩ := NextDocument.exists_transitionOf_iff.mpr notated.2
      refine ⟨.pattern source token groups start next, ?_⟩
      rw [ruleDef, acted, moved]
      rfl

end EntryDocument

end RuleLexer
