import RuleLexer.Engine.Tokens
import RuleLexer.Proofs.Table.Building

/-!
# Inlining

An entry that includes a state stands for the entries of this state, so it can be replaced by them:
in any place, whatever these entries include in turn, and wherever else the state is included.

Both directions carry flattenings from one definition over to the other. Going back needs no more
than that the included state is found under its name. Going forth, the included state must not be
the one that changes, or else it would no longer have the entries that were put in its place; a
state that includes itself has no flattening to begin with.

## Main result

`TableDef.Inlines.transparent`: putting the entries of a state in the place of its inclusion changes
neither whether a definition is built nor the rules of any state nor any tokenization.
-/
namespace RuleLexer

namespace BuildContext

variable {context other : BuildContext} {entries front back : List RuleDef} {rules : List Rule}
  {target : String} {included : StateDef} {rule : Rule}

/-- Entries are flattened as well with an inclusion as with the entries that it stands for. -/
theorem flattens_includeState_iff (found : context.stateDef? target = some included) :
    context.Flattens (front ++ .includeState target :: back) rules ↔
      context.Flattens (front ++ included.entries ++ back) rules := by
  constructor
  · intro flat
    obtain ⟨_, _, flatFront, flatRest, rfl⟩ := flat.exists_append
    cases flatRest with
    | includeState again head tail =>
      cases found.symm.trans again
      rw [← List.append_assoc]
      exact (flatFront.append head).append tail
  · intro flat
    obtain ⟨_, _, flatBoth, flatBack, rfl⟩ := flat.exists_append
    obtain ⟨_, _, flatFront, flatIncluded, rfl⟩ := flatBoth.exists_append
    rw [List.append_assoc]
    exact flatFront.append (.includeState found flatIncluded flatBack)

/-- A state can take the place of another one: it has its name, and what the entries of the other
one stand for, its own do as well. -/
def Replaces (context : BuildContext) (state replacement : StateDef) : Prop :=
  replacement.name = state.name ∧
    ∀ rules, context.Flattens state.entries rules → context.Flattens replacement.entries rules

theorem Replaces.refl (state : StateDef) : context.Replaces state state := ⟨rfl, fun _ flat => flat⟩

namespace Replaces

variable {states replacements : List StateDef}

theorem map_name_eq (replaced : List.Forall₂ context.Replaces states replacements) :
    replacements.map StateDef.name = states.map StateDef.name := by
  induction replaced with
  | nil => rfl
  | cons here _ ih => rw [List.map_cons, List.map_cons, ih, here.1]

/-- A state is replaced by the one that is found under its name afterwards. -/
theorem exists_find? {name : String} {state : StateDef}
    (replaced : List.Forall₂ context.Replaces states replacements)
    (found : states.find? (fun state => state.name == name) = some state) :
    ∃ replacement, replacements.find? (fun state => state.name == name) = some replacement ∧
      context.Replaces state replacement := by
  induction replaced with
  | nil => cases found
  | @cons first replacement _ _ here _ ih =>
    by_cases named : first.name = name
    · rw [List.find?_cons_of_pos (by simpa using named)] at found
      cases found
      exact ⟨replacement, List.find?_cons_of_pos (by simpa [here.1] using named), here⟩
    · rw [List.find?_cons_of_neg (by simpa using named)] at found
      rw [List.find?_cons_of_neg (by simpa [here.1] using named)]
      exact ih found

/-- One state among others is replaced. -/
theorem forall₂_append_cons {before after : List StateDef} {state replacement : StateDef}
    (replaces : context.Replaces state replacement) :
    List.Forall₂ context.Replaces (before ++ state :: after) (before ++ replacement :: after) :=
  List.rel_append (List.forall₂_same.mpr fun _ _ => .refl _)
    (.cons replaces (List.forall₂_same.mpr fun _ _ => .refl _))

end Replaces

/-- A context that differs from another one only in that its states take the place of the states of
the other one. -/
structure Adapts (context other : BuildContext) : Prop where
  library : other.library = context.library
  options : other.options = context.options
  states : List.Forall₂ other.Replaces context.states other.states

namespace Adapts

theorem hasState_eq (adapts : context.Adapts other) (name : String) :
    other.hasState name = context.hasState name := by
  have names := Replaces.map_name_eq adapts.states
  have member : name ∈ other.states.map StateDef.name ↔
      name ∈ context.states.map StateDef.name := by
    rw [names]
  rw [Bool.eq_iff_iff]
  simpa [hasState, stateDef?] using member

theorem fits (adapts : context.Adapts other) (fits : context.Fits rule) : other.Fits rule := by
  apply fits.mono adapts.library
  intro name known
  rwa [adapts.hasState_eq]

/-- What entries stand for is the same after states have been replaced. -/
theorem flattens (adapts : context.Adapts other) (flat : context.Flattens entries rules) :
    other.Flattens entries rules := by
  induction flat with
  | nil => exact .nil
  | rule compiled fits _ ih => exact .rule (adapts.options ▸ compiled) (adapts.fits fits) ih
  | includeState found _ _ ihHead ihTail =>
    -- The old entries of the included state have the flattening already, so the new ones have it.
    obtain ⟨replacement, foundOther, -, replaces⟩ := Replaces.exists_find? adapts.states found
    exact .includeState foundOther (replaces _ ihHead) ihTail

/-- What stands for states stands for the states that take their place. -/
theorem stands (adapts : context.Adapts other) {definitions replacements : List StateDef}
    {states : List State} (replaced : List.Forall₂ other.Replaces definitions replacements)
    (stand : List.Forall₂ context.Stands definitions states) :
    List.Forall₂ other.Stands replacements states := by
  induction replaced generalizing states with
  | nil =>
    cases stand
    exact .nil
  | cons here _ ih =>
    cases stand with
    | cons stands rest =>
      have flat := here.2 _ (adapts.flattens stands.2)
      exact .cons ⟨stands.1.trans here.1.symm, flat⟩ (ih rest)

end Adapts

end BuildContext

namespace TableDef

variable {library : Library} {definition other inlined : TableDef} {table : RuleTable}

/-- A definition whose states take the place of the states of another one is built into the same
table. -/
theorem build_of_adapts (built : definition.build library = .ok table)
    (name : other.name = definition.name) (options : other.options = definition.options)
    (adapts : (definition.context library).Adapts (other.context library)) :
    other.build library = .ok table := by
  obtain ⟨distinct, root, tableName, tableOptions, stand⟩ := build_eq_ok_iff.mp built
  have names : other.states.map StateDef.name = definition.states.map StateDef.name :=
    BuildContext.Replaces.map_name_eq adapts.states
  refine build_eq_ok_iff.mpr ⟨names ▸ distinct, ?_, name ▸ tableName, options ▸ tableOptions, ?_⟩
  · rwa [adapts.hasState_eq]
  · exact adapts.stands adapts.states stand

/-- One entry of a definition that includes a defined state is replaced by the entries of this
state. -/
inductive Inlines : TableDef → TableDef → Prop
  | intro {name : String} {options : TableOptions} {before after : List StateDef}
      {state included : StateDef} {front back : List RuleDef}
      (defined : included ∈ before ++ state :: after)
      (entries : state.entries = front ++ .includeState included.name :: back) :
      Inlines ⟨name, options, before ++ state :: after⟩
        ⟨name, options, before ++ ⟨state.name, front ++ included.entries ++ back⟩ :: after⟩

namespace Inlines

theorem map_name_eq (inlines : definition.Inlines inlined) :
    inlined.states.map StateDef.name = definition.states.map StateDef.name := by
  cases inlines
  simp

theorem build_of_build (inlines : definition.Inlines inlined)
    (built : definition.build library = .ok table) : inlined.build library = .ok table := by
  obtain ⟨distinct, -, -, -, stand⟩ := build_eq_ok_iff.mp built
  have acyclic := (BuildContext.resolvable_of_stands stand).acyclic
  have distinctInlined := inlines.map_name_eq ▸ distinct
  cases inlines with
  | @intro name options before after state included front back defined entries =>
    let replacement : StateDef := ⟨state.name, front ++ included.entries ++ back⟩
    let inlined : TableDef := ⟨name, options, before ++ replacement :: after⟩
    -- The included state is not the one that changes, since no state includes itself.
    have apart : included ≠ state := by
      rintro rfl
      refine acyclic included.name (.single ⟨included, ?_, by simp [entries]⟩)
      exact BuildContext.known_of_mem distinct defined
    have kept : included ∈ inlined.states := by
      simp only [List.mem_append, List.mem_cons, apart, false_or] at defined
      simpa [inlined] using defined.imp_right .inr
    have known : (inlined.context library).Known included :=
      BuildContext.known_of_mem distinctInlined kept
    have replaces : (inlined.context library).Replaces state replacement := by
      refine ⟨rfl, fun rules => ?_⟩
      rw [entries]
      exact (BuildContext.flattens_includeState_iff known).mp
    exact build_of_adapts built rfl rfl ⟨rfl, rfl, replaces.forall₂_append_cons⟩

theorem build_of_build_inlined (inlines : definition.Inlines inlined)
    (built : inlined.build library = .ok table) : definition.build library = .ok table := by
  obtain ⟨distinct, -⟩ := build_eq_ok_iff.mp built
  rw [inlines.map_name_eq] at distinct
  cases inlines with
  | @intro name options before after state included front back defined entries =>
    let definition : TableDef := ⟨name, options, before ++ state :: after⟩
    have known : (definition.context library).Known included :=
      BuildContext.known_of_mem distinct defined
    have replaces : (definition.context library).Replaces
        ⟨state.name, front ++ included.entries ++ back⟩ state := by
      refine ⟨rfl, fun rules => ?_⟩
      rw [entries]
      exact (BuildContext.flattens_includeState_iff known).mpr
    exact build_of_adapts built rfl rfl ⟨rfl, rfl, replaces.forall₂_append_cons⟩

theorem build_eq_ok_iff (inlines : definition.Inlines inlined) :
    inlined.build library = .ok table ↔ definition.build library = .ok table :=
  ⟨inlines.build_of_build_inlined, inlines.build_of_build⟩

/-- **Inlining.** If one inclusion of a defined state is replaced by the entries of this state, a
definition is built as before or as little as before. When it is built, every state has the rules
that it had, and with whatever options the table runs, any number of calls gives the same tokens and
leaves the same cursor and the same stack. -/
theorem transparent (inlines : definition.Inlines inlined) (library : Library) :
    ((∃ table, definition.build library = .ok table) ↔
      ∃ table, inlined.build library = .ok table) ∧
    ∀ original replaced, definition.build library = .ok original →
      inlined.build library = .ok replaced →
        replaced.states = original.states ∧ replaced.options = original.options ∧
        ∀ (tables : Library) (run : RunOptions) (text : List Char) (state : String) (calls : Nat),
          let first := ((original.withRunOptions run).tokenizeFrom tables text state).take calls
          let second := ((replaced.withRunOptions run).tokenizeFrom tables text state).take calls
          second.1 = first.1 ∧ second.2.cursor = first.2.cursor ∧
            second.2.stateStack = first.2.stateStack := by
  refine ⟨by simp only [inlines.build_eq_ok_iff], ?_⟩
  intro original replaced built builtInlined
  have same : original = replaced := by
    rw [inlines.build_eq_ok_iff, built] at builtInlined
    exact Except.ok.inj builtInlined
  subst same
  exact ⟨rfl, rfl, fun _ _ _ _ _ => ⟨rfl, rfl, rfl⟩⟩

/-- The words of a text are included at the root, between two rules of its own. -/
theorem transparent_of_words :
    let words : StateDef := ⟨"words", [.staying "[a-z]+" (.token .name)]⟩
    let front : List RuleDef := [.staying "[0-9]" (.token .text)]
    let back : List RuleDef := [.staying " " (.token .whitespace)]
    let definition : TableDef :=
      ⟨"text", {}, [⟨"root", front ++ .includeState words.name :: back⟩, words]⟩
    let inlined : TableDef := ⟨"text", {}, [⟨"root", front ++ words.entries ++ back⟩, words]⟩
    definition.Inlines inlined ∧ ∃ original replaced,
      definition.build [] = .ok original ∧ inlined.build [] = .ok replaced ∧
        replaced.states = original.states := by
  intro words front back definition inlined
  have inlines : definition.Inlines inlined :=
    @intro "text" {} [] [words] ⟨"root", _⟩ words front back (by simp) rfl
  obtain ⟨original, built⟩ : ∃ table, definition.build [] = .ok table := ⟨_, rfl⟩
  obtain ⟨equivalent, same⟩ := transparent inlines []
  obtain ⟨replaced, builtInlined⟩ := equivalent.mp ⟨original, built⟩
  exact ⟨inlines, original, replaced, built, builtInlined,
    (same original replaced built builtInlined).1⟩

end Inlines

end TableDef

end RuleLexer
