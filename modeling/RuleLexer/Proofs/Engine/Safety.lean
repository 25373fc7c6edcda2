import RuleLexer.Proofs.Table.Closed
import RuleLexer.Proofs.Tokens.Termination

/-!
# Safety

An engine asks for much that need not be there: the state on top of its stack, the text at its
cursor, a state that a transition names, a slice for a delegate, the table and the state that the
delegate names. Where it finds nothing it goes on with something else, a state without rules, an
empty text, the root. In a table that has been built it always finds what it asks for.

One invariant is behind this. The table is closed, the states on the stack are states of the table,
and the cursor counts the bytes before it. A nested engine runs another table over another text, so
the invariant says nothing about the engine around it.

## Main result

`tokenizeFrom_faultless`: with tables that have been built, every engine that a tokenization brings
about finds whatever it asks for.
-/
namespace RuleLexer

open Text Regex

/-! ### Parts of a match -/

/-- A part of a match that is not empty and is cut out of the text between characters. -/
structure Part.Proper (text : List Char) (part : Part) : Prop where
  ordered : part.start < part.stop
  starts : IsBoundary text part.start
  stops : IsBoundary text part.stop

namespace Part

variable {text : List Char} {part : Part} {start stop covered : Nat} {action : GroupAction}

theorem mem_nonempty_iff :
    part ∈ nonempty start stop action ↔ start < stop ∧ part = ⟨start, stop, action⟩ := by
  unfold nonempty
  split
  next proper => simp [proper]
  next improper => simp [improper]

theorem Proper.exists_slice (proper : part.Proper text) :
    ∃ piece, slice? text part.start part.stop = some piece ∧ piece ≠ [] := by
  obtain ⟨front, rest, rfl, size⟩ := proper.starts
  obtain ⟨longer, back, same, stop⟩ := proper.stops
  have ordered := proper.ordered
  obtain ⟨piece, rfl, rfl⟩ := exists_between same (by omega)
  rw [byteLength_append] at stop
  refine ⟨piece, slice?_eq_some_iff.mpr ⟨front, back, by simp, size, by omega⟩, ?_⟩
  rintro rfl
  simp only [byteLength] at stop
  omega

theorem Proper.ne_nil (proper : part.Proper text) : text ≠ [] := by
  obtain ⟨piece, sliced, nonempty⟩ := proper.exists_slice
  obtain ⟨front, back, rfl, -⟩ := slice?_eq_some_iff.mp sliced
  simp [nonempty]

/-- The parts of a match with groups are proper, and what becomes of them is said by the action of a
group unless they are skipped. -/
theorem proper_of_mem_ofGroups {groups : List (GroupAction × Option Extent)}
    (starts : IsBoundary text covered) (stops : IsBoundary text stop)
    (within : ∀ entry ∈ groups, ∀ extent ∈ entry.2, extent.Within text stop)
    (member : part ∈ ofGroups covered groups stop) :
    part.Proper text ∧ (part.action = .skip ∨ ∃ entry ∈ groups, entry.1 = part.action) := by
  induction groups generalizing covered with
  | nil =>
    obtain ⟨ordered, rfl⟩ := mem_nonempty_iff.mp member
    exact ⟨⟨ordered, starts, stops⟩, .inl rfl⟩
  | cons entry rest ih =>
    obtain ⟨action, extent⟩ := entry
    rw [List.forall_mem_cons] at within
    have further {covered : Nat} (starts : IsBoundary text covered)
        (member : part ∈ ofGroups covered rest stop) : part.Proper text ∧
          (part.action = .skip ∨ ∃ entry ∈ (action, extent) :: rest, entry.1 = part.action) := by
      obtain ⟨proper, said⟩ := ih starts within.2 member
      exact ⟨proper, said.imp_right fun ⟨entry, among, same⟩ =>
        ⟨entry, List.mem_cons_of_mem _ among, same⟩⟩
    cases extent with
    | none => exact further starts member
    | some extent =>
      have here : extent.Within text stop := within.1 extent rfl
      -- What is covered already is cut off the front of a group.
      have begins : IsBoundary text (max extent.start covered) := by
        rcases Nat.le_total extent.start covered with le | le
        · rwa [Nat.max_eq_right le]
        · rw [Nat.max_eq_left le]
          exact here.starts
      simp only [ofGroups] at member
      split at member
      next => exact further starts member
      next =>
        rcases List.mem_append.mp member with member | member
        · rcases List.mem_append.mp member with gap | piece
          · obtain ⟨ordered, rfl⟩ := mem_nonempty_iff.mp gap
            exact ⟨⟨ordered, starts, begins⟩, .inl rfl⟩
          · obtain ⟨ordered, rfl⟩ := mem_nonempty_iff.mp piece
            exact ⟨⟨ordered, begins, here.stops⟩, .inr ⟨_, List.mem_cons_self, rfl⟩⟩
        · exact further here.stops member

/-- The parts of a match are proper, and what becomes of them is said by the action of the rule
unless they are skipped. -/
theorem proper_of_mem_ofMatch {action : Action} {found : Match} (within : found.Within text)
    (member : part ∈ ofMatch action found) :
    part.Proper text ∧ (part.action = .skip ∨ part.action ∈ action.partActions) := by
  have starts : IsBoundary text 0 := ⟨[], text, rfl, rfl⟩
  cases action with
  | token kind =>
    obtain ⟨ordered, rfl⟩ := mem_nonempty_iff.mp member
    exact ⟨⟨ordered, starts, within.stops⟩, .inr (List.mem_singleton_self _)⟩
  | delegate nested =>
    obtain ⟨ordered, rfl⟩ := mem_nonempty_iff.mp member
    exact ⟨⟨ordered, starts, within.stops⟩, .inr (List.mem_singleton_self _)⟩
  | byGroups groups =>
    have inside : ∀ entry ∈ groups.zip found.groups, ∀ extent ∈ entry.2,
        extent.Within text found.stop := by
      intro entry among extent same
      have among := (List.of_mem_zip among).2
      rw [Option.mem_def.mp same] at among
      exact within.groups extent among
    obtain ⟨proper, said⟩ := proper_of_mem_ofGroups starts within.stops inside member
    refine ⟨proper, said.imp_right ?_⟩
    rintro ⟨entry, among, same⟩
    exact same ▸ (List.of_mem_zip among).1

/-- What a part hands on is handed on by the action that the part comes from. -/
theorem mem_delegates {action : Action} {delegate : Delegate}
    (said : part.action = .skip ∨ part.action ∈ action.partActions)
    (handed : part.action = .delegate delegate) : delegate ∈ action.delegates := by
  rw [handed] at said
  exact Action.mem_delegates_iff.mpr (said.resolve_left (by simp))

end Part

/-- A match has as many groups as its pattern, whether they matched or not. -/
theorem Pattern.length_groups_of_matchHere? {pattern : Pattern} {before after : List Char}
    {found : Match} (matched : pattern.matchHere? before after = some found) :
    found.groups.length = pattern.groupCount := by
  unfold matchHere? at matched
  split at matched
  · obtain ⟨success, -, rfl⟩ := Option.map_eq_some_iff.mp matched
    simp
  · cases matched

/-! ### Stacks -/

namespace StateStack

variable {stack : StateStack} {limit : Nat} {name state : String}

theorem mem_toList_iff : name ∈ stack.toList ↔ name = stack.bottom ∨ name ∈ stack.above := by
  simp [toList]

theorem top_mem : stack.top ∈ stack.toList := by
  rw [mem_toList_iff, top]
  cases stack.above with
  | nil => exact .inl rfl
  | cons first rest => exact .inr List.mem_cons_self

theorem mem_toList_push (member : name ∈ (stack.push limit state).toList) :
    name ∈ stack.toList ∨ name = state := by
  unfold push at member
  split at member
  · simp only [mem_toList_iff, List.mem_cons] at member ⊢
    tauto
  · exact .inl member

/-- A transition leaves no state on a stack that was not there and is not named by it. -/
theorem mem_toList_apply {next : Transition} (member : name ∈ (stack.apply limit next).toList) :
    name ∈ stack.toList ∨ name ∈ next.targets := by
  cases next with
  | stay => exact .inl member
  | push state => exact (mem_toList_push member).imp_right List.mem_singleton.mpr
  | pushCurrent =>
    rcases mem_toList_push member with old | rfl
    · exact .inl old
    · exact .inl top_mem
  | pop count =>
    rw [mem_toList_iff] at member ⊢
    exact .inl (member.imp_right List.mem_of_mem_drop)
  | pushAll states =>
    simp only [apply, Transition.targets] at member ⊢
    induction states generalizing stack with
    | nil => exact .inl member
    | cons state states ih =>
      rcases ih member with pushed | later
      · rcases mem_toList_push pushed with old | rfl
        · exact .inl old
        · exact .inr List.mem_cons_self
      · exact .inr (List.mem_cons_of_mem _ later)

end StateStack

namespace Engine

variable {library : Library} {engine inner origin : Engine} {table : RuleTable}

/-! ### The invariant -/

/-- An engine runs a closed table, the states on its stack are states of this table, and its cursor
counts the bytes before it. -/
structure Consistent (library : Library) (engine : Engine) : Prop where
  closed : engine.table.Closed library
  states : ∀ name ∈ engine.stack.toList, engine.table.hasState name
  aligned : engine.Aligned

theorem consistent_start {state : String} (closed : table.Closed library)
    (known : table.hasState state) (text : List Char) (depth : Nat) :
    (start table text state depth).Consistent library := by
  refine ⟨closed, ?_, aligned_start _ _ _ _⟩
  intro name member
  cases List.mem_singleton.mp member
  exact known

theorem Consistent.exists_state (consistent : engine.Consistent library) :
    ∃ state, engine.table.state? engine.stack.top = some state ∧ engine.rules = state.rules := by
  have known := consistent.states _ StateStack.top_mem
  obtain ⟨state, found⟩ := Option.isSome_iff_exists.mp known
  exact ⟨state, found, by simp [rules, RuleTable.rules, found]⟩

/-- The rules that an engine tries can be run in its table. -/
theorem Consistent.admits (consistent : engine.Consistent library) {rule : Rule}
    (member : rule ∈ engine.rules) : engine.table.Admits library rule :=
  consistent.closed.admits_of_mem_rules member

/-- What a step leaves on the stack was there before or is named by a rule of the top state. -/
theorem mem_stack_step {name : String} (member : name ∈ (engine.step library).2.stack.toList) :
    name ∈ engine.stack.toList ∨ ∃ rule ∈ engine.rules, name ∈ rule.next.targets := by
  unfold step at member
  split at member
  next rule found fires =>
    rcases StateStack.mem_toList_apply member with old | named
    · exact .inl old
    · exact .inr ⟨rule, (firing?_eq_some fires).1, named⟩
  next =>
    unfold recover at member
    split at member
    · exact .inl member
    · split at member
      · -- A line end that resets the stack leaves its bottom.
        rw [StateStack.mem_toList_iff]
        exact .inl (.inl (List.mem_singleton.mp member))
      · rw [stack_move] at member
        exact .inl member

theorem Consistent.step (consistent : engine.Consistent library) (nonempty : engine.after ≠ []) :
    (engine.step library).2.Consistent library := by
  obtain ⟨front, passes, -⟩ := step_passes library engine nonempty
  refine ⟨passes.table ▸ consistent.closed, ?_, passes.aligned consistent.aligned⟩
  intro name member
  rw [passes.table]
  rcases mem_stack_step member with old | ⟨rule, among, named⟩
  · exact consistent.states name old
  · exact (consistent.admits among).targets name named

/-! ### Nested engines -/

/-- What a rule delegates is run by the table that the delegate names, over a proper slice of the
text, from the state that the delegate names, and from the root only if it names none. -/
theorem Consistent.exists_delegated (consistent : engine.Consistent library)
    (tables : ∀ table ∈ library, table.Closed library) {rule : Rule} {found : Match} {part : Part}
    {delegate : Delegate} (member : rule ∈ engine.rules)
    (matched : rule.pattern.matchHere? engine.before engine.after = some found)
    (among : part ∈ Part.ofMatch rule.action found) (handed : part.action = .delegate delegate) :
    ∃ target piece, delegate.target.table? library engine.table = some target ∧
      target.Closed library ∧ (∀ start ∈ delegate.state, target.hasState start) ∧
      target.hasState (delegate.state.getD RuleTable.rootName) ∧
      slice? engine.after part.start part.stop = some piece ∧ piece ≠ [] ∧
      engine.delegated library delegate part.start part.stop =
        .start target piece (delegate.state.getD RuleTable.rootName) (engine.depth + 1) := by
  obtain ⟨proper, said⟩ := Part.proper_of_mem_ofMatch (Pattern.matchHere?_within matched) among
  obtain ⟨piece, sliced, nonempty⟩ := proper.exists_slice
  have named := Part.mem_delegates said handed
  obtain ⟨target, there, starts⟩ := (consistent.admits member).delegates _ named
  have closed : target.Closed library := by
    rcases List.mem_cons.mp (DelegateTarget.mem_of_table? there) with rfl | member
    · exact consistent.closed
    · exact tables target member
  refine ⟨target, piece, there, closed, starts, ?_, sliced, nonempty, ?_⟩
  · cases chosen : delegate.state with
    | none => exact closed.root
    | some start => exact starts start chosen
  · -- A state that is named is there, so none is dropped for the root.
    have kept : delegate.state.filter target.hasState = delegate.state := by
      cases chosen : delegate.state with
      | none => rfl
      | some start => simp [starts start chosen]
    simp [delegated, textOver, there, sliced, kept]

theorem Consistent.nested (consistent : engine.Consistent library)
    (tables : ∀ table ∈ library, table.Closed library) {offset : Nat}
    (handed : Item.nested offset inner ∈ (engine.step library).1) : inner.Consistent library := by
  obtain ⟨rule, found, part, delegate, fires, among, named, -, -, rfl⟩ :=
    exists_delegate_of_nested handed
  obtain ⟨member, matched, -⟩ := firing?_eq_some fires
  obtain ⟨target, piece, -, closed, -, known, -, -, same⟩ :=
    consistent.exists_delegated tables member matched among named
  rw [same]
  exact consistent_start closed known _ _

theorem Reaches.consistent (reached : Reaches library origin engine)
    (tables : ∀ table ∈ library, table.Closed library) (consistent : origin.Consistent library) :
    engine.Consistent library := by
  induction reached with
  | origin => exact consistent
  | step _ nonempty ih => exact ih.step nonempty
  | nested _ _ handed ih => exact ih.nested tables handed

/-! ### Faults -/

/-- Nothing that an engine asks for is missing. -/
structure Faultless (library : Library) (engine : Engine) : Prop where
  /-- Every state on the stack, and every state that a rule of the table leads to, has a number, and
  the state with this number has the name. -/
  stack : ∀ name ∈ engine.stack.toList, engine.table.Indexes name
  targets : ∀ state ∈ engine.table.states, ∀ rule ∈ state.rules, ∀ name ∈ rule.next.targets,
    engine.table.Indexes name
  /-- There is a state on top of the stack, and its rules are the ones that are tried. -/
  top : ∃ state, engine.stack.top ∈ engine.stack.toList ∧
    engine.table.state? engine.stack.top = some state ∧ engine.rules = state.rules
  /-- The cursor cuts the text, so a look-behind has a text to look at. -/
  cursor : splitAt? engine.text engine.cursor = some (engine.before, engine.after)
  asked : ∀ pattern : Pattern, ∃ answer, pattern.matchAt engine.text engine.cursor = .ok answer
  /-- The end of a match cuts what is left of the text, and so does the end of a character. -/
  fires : ∀ rule ∈ engine.rules, ∀ found,
    rule.pattern.matchHere? engine.before engine.after = some found →
      ∃ before after, splitOnto engine.before engine.after found.stop = some (before, after)
  recovers : ∀ char rest, engine.after = char :: rest →
    splitOnto engine.before engine.after char.utf8Size = some (char :: engine.before, rest)
  /-- There are as many groups as actions for them. -/
  groups : ∀ rule ∈ engine.rules, ∀ found,
    rule.pattern.matchHere? engine.before engine.after = some found →
      ∀ actions, rule.action = .byGroups actions → found.groups.length = actions.length
  /-- A delegate finds its table and the state that it names, and runs over a slice of the text. It
  starts in the root only if it names no state. -/
  delegates : ∀ rule ∈ engine.rules, ∀ found,
    rule.pattern.matchHere? engine.before engine.after = some found →
      ∀ part ∈ Part.ofMatch rule.action found, ∀ delegate, part.action = .delegate delegate →
        ∃ target piece, delegate.target.table? library engine.table = some target ∧
          (∀ start ∈ delegate.state, target.Indexes start) ∧
          target.Indexes (delegate.state.getD RuleTable.rootName) ∧
          slice? engine.text (engine.cursor + part.start) (engine.cursor + part.stop) =
            some piece ∧ piece ≠ [] ∧
          engine.delegated library delegate part.start part.stop =
            .start target piece (delegate.state.getD RuleTable.rootName) (engine.depth + 1)

/-- The text before the cursor and the text after it are the whole text. -/
theorem Aligned.splitAt? (aligned : engine.Aligned) :
    splitAt? engine.text engine.cursor = some (engine.before, engine.after) :=
  splitAt?_eq_some_iff.mpr ⟨rfl, aligned.symm⟩

theorem Consistent.faultless (consistent : engine.Consistent library)
    (tables : ∀ table ∈ library, table.Closed library) : engine.Faultless library := by
  have cut := consistent.aligned.splitAt?
  refine ⟨?_, ?_, ?_, cut, ?_, ?_, ?_, ?_, ?_⟩
  · intro name member
    exact RuleTable.indexes_of_hasState (consistent.states name member)
  · intro state member rule inside name named
    have admits := consistent.closed.rules state member rule inside
    exact RuleTable.indexes_of_hasState (admits.targets name named)
  · obtain ⟨state, found, same⟩ := consistent.exists_state
    exact ⟨state, StateStack.top_mem, found, same⟩
  · intro pattern
    rw [Pattern.matchAt, cut]
    exact ⟨_, rfl⟩
  · intro rule _ found matched
    obtain ⟨front, back, split, size⟩ := (Pattern.matchHere?_within matched).stops
    exact ⟨_, _, splitOnto_eq_some_iff.mpr ⟨front, split, rfl, size⟩⟩
  · intro char rest split
    exact splitOnto_eq_some_iff.mpr ⟨[char], split, rfl, by simp [byteLength]⟩
  · intro rule member found matched actions grouped
    rw [(consistent.admits member).grouped actions grouped]
    exact Pattern.length_groups_of_matchHere? matched
  · intro rule member found matched part among delegate handed
    obtain ⟨target, piece, there, -, starts, known, sliced, nonempty, same⟩ :=
      consistent.exists_delegated tables member matched among handed
    exact ⟨target, piece, there,
      fun start chosen => RuleTable.indexes_of_hasState (starts start chosen),
      RuleTable.indexes_of_hasState known, consistent.aligned.slice? sliced, nonempty, same⟩

end Engine

/-- **Safety.** A tokenization from a state of a table that has been built, with a library of tables
that have been built, never asks for anything that is not there: neither the engine that it begins
with nor any engine that it brings about, at whatever step, and hence none of the engines that a
stream holds after any number of calls. -/
theorem tokenizeFrom_faultless {library : Library} {table : RuleTable} {state : String}
    (tables : library.Built) (built : table.BuiltFrom library) (known : table.hasState state)
    (text : List Char) :
    (∀ engine, Engine.Reaches library (.start table text state 0) engine →
      engine.Faultless library) ∧
    ∀ calls, ∀ frame ∈ ((table.tokenizeFrom library text state).afterCalls calls).frames,
      frame.engine.Faultless library := by
  have closed : ∀ table ∈ library, table.Closed library := fun _ => tables.closed
  have reaches : ∀ engine, Engine.Reaches library (.start table text state 0) engine →
      engine.Faultless library := by
    intro engine reached
    have begun := Engine.consistent_start built.closed known text 0
    exact (reached.consistent closed begun).faultless closed
  refine ⟨reaches, ?_⟩
  intro calls frame member
  exact reaches frame.engine (Tokens.reaches_of_mem_frames member)

/-- The comment of a line is handed to a table of words, from a state that is not its root. -/
theorem tokenizeFrom_faultless_of_comments :
    let words : TableDef := ⟨"words", {}, [⟨"root", [.includeState "word"]⟩,
      ⟨"word", [.staying "[a-z]+" (.token .name)]⟩]⟩
    let lines : TableDef := ⟨"lines", {}, [
      ⟨"root", [.rule "(#)(.*)" (.byGroups [.kind .comment, .delegate ⟨.entry 0, some "word"⟩])
        (.push "end")]⟩,
      ⟨"end", [.rule "\n" (.token .whitespace) (.pop 1)]⟩]⟩
    ∃ inner outer, words.build [] = .ok inner ∧ lines.build [inner] = .ok outer ∧
      ∀ engine, Engine.Reaches [inner] (.start outer "# to do\n".toList "root" 0) engine →
        engine.Faultless [inner] := by
  intro words lines
  obtain ⟨inner, outer, builtInner, builtOuter, known⟩ : ∃ inner outer,
      words.build [] = .ok inner ∧ lines.build [inner] = .ok outer ∧ outer.hasState "root" :=
    ⟨_, _, rfl, rfl, rfl⟩
  have tables : Library.Built [inner] := .snoc .nil (RuleTable.builtFrom_of_build builtInner)
  have built := RuleTable.builtFrom_of_build builtOuter
  exact ⟨inner, outer, builtInner, builtOuter,
    (tokenizeFrom_faultless tables built known "# to do\n".toList).1⟩

end RuleLexer
