import RuleLexer.Engine.Step
import RuleLexer.Proofs.Regex.Extent

/-!
# What a step does

Whether a rule fires or a character is given up, a step passes some characters and puts out items
that cover exactly these. `Passes` and `Covers` say so once for all kinds of steps; what holds of
every step is derived from them and not from the rules of a table.

## Main result

`step_passes`: while text is left, a step passes a front part of it, an empty one only if an idle
step is left, and its items cover this front part.
-/
namespace RuleLexer

open Text

namespace Engine

/-- An engine that has passed some characters. Passing none uses up an idle step. -/
structure Passes (engine : Engine) (front : List Char) (next : Engine) : Prop where
  table : next.table = engine.table
  depth : next.depth = engine.depth
  after : engine.after = front ++ next.after
  before : next.before = front.reverse ++ engine.before
  cursor : next.cursor = engine.cursor + byteLength front
  idle : front = [] ∧ engine.idle < idleLimit ∧ next.idle = engine.idle + 1 ∨
    front ≠ [] ∧ next.idle = 0

/-- Items that an engine puts out from an offset on, one after the other, for all of a text. An item
is a token over a piece of the text or a fresh engine at the beginning of the piece, one level
deeper, with a table that the running one can name. -/
inductive Covers (library : Library) (engine : Engine) : Nat → List Item → List Char → Prop
  | nil (start : Nat) : Covers library engine start [] []
  | token {start : Nat} {items : List Item} {piece chars : List Char} (kind : TokenKind)
      (nonempty : piece ≠ [])
      (tail : Covers library engine (start + byteLength piece) items chars) :
      Covers library engine start (.token ⟨kind, start, start + byteLength piece⟩ :: items)
        (piece ++ chars)
  | nested {start : Nat} {items : List Item} {piece chars : List Char} {table : RuleTable}
      (state : String) (nonempty : piece ≠ []) (named : table ∈ engine.table :: library)
      (allowed : engine.depth < engine.table.options.run.maxDelegateDepth)
      (tail : Covers library engine (start + byteLength piece) items chars) :
      Covers library engine start
        (.nested start (.start table piece state (engine.depth + 1)) :: items) (piece ++ chars)

variable {engine : Engine}

theorem Covers.append {library : Library} {start : Nat} {items more : List Item}
    {chars further : List Char} (first : Covers library engine start items chars)
    (second : Covers library engine (start + byteLength chars) more further) :
    Covers library engine start (items ++ more) (chars ++ further) := by
  induction first with
  | nil start => simpa [byteLength] using second
  | @token start items piece chars kind nonempty _ ih =>
    rw [byteLength_append, ← Nat.add_assoc] at second
    rw [List.cons_append, List.append_assoc]
    exact .token kind nonempty (ih second)
  | @nested start items piece chars table state nonempty named allowed _ ih =>
    rw [byteLength_append, ← Nat.add_assoc] at second
    rw [List.cons_append, List.append_assoc]
    exact .nested state nonempty named allowed (ih second)

/-! ### Items of a match -/

variable (library : Library)

theorem textOver_eq {done piece back : List Char} (split : engine.after = done ++ (piece ++ back)) :
    engine.textOver (byteLength done) (byteLength done + byteLength piece) = piece := by
  have sliced : slice? engine.after (byteLength done) (byteLength done + byteLength piece) =
      some piece :=
    slice?_eq_some_iff.mpr ⟨done, back, by simp [split], rfl, rfl⟩
  simp [textOver, sliced]

theorem delegate_table_mem (target : DelegateTarget) :
    (target.table? library engine.table).getD engine.table ∈ engine.table :: library := by
  cases target with
  | this => exact List.mem_cons_self
  | entry position =>
    cases found : library[position]? with
    | none => simp [DelegateTarget.table?, found]
    | some table => simp [DelegateTarget.table?, found, List.mem_of_getElem? found]

theorem tokenOver_covers {piece : List Char} (kind : TokenKind) (start : Nat)
    (nonempty : piece ≠ []) :
    Covers library engine (engine.cursor + start)
      [engine.tokenOver kind start (start + byteLength piece)] piece := by
  have single : Covers library engine (engine.cursor + start)
      [.token ⟨kind, engine.cursor + start, engine.cursor + start + byteLength piece⟩]
      (piece ++ []) :=
    .token kind nonempty (.nil _)
  rwa [List.append_nil, Nat.add_assoc] at single

theorem nested_covers {piece : List Char} {table : RuleTable} (start : Nat) (state : String)
    (nonempty : piece ≠ []) (named : table ∈ engine.table :: library)
    (allowed : engine.depth < engine.table.options.run.maxDelegateDepth) :
    Covers library engine start [.nested start (.start table piece state (engine.depth + 1))]
      piece := by
  have single : Covers library engine start
      [.nested start (.start table piece state (engine.depth + 1))] (piece ++ []) :=
    .nested state nonempty named allowed (.nil _)
  rwa [List.append_nil] at single

theorem itemOf_covers {done piece back : List Char}
    (split : engine.after = done ++ (piece ++ back)) (nonempty : piece ≠ [])
    (action : GroupAction) :
    Covers library engine (engine.cursor + byteLength done)
      [engine.itemOf library ⟨byteLength done, byteLength done + byteLength piece, action⟩]
      piece := by
  cases action with
  | kind kind => exact tokenOver_covers library kind _ nonempty
  | skip => exact tokenOver_covers library .text _ nonempty
  | delegate delegate =>
    unfold itemOf
    dsimp only
    split
    next allowed =>
      rw [delegated, textOver_eq split]
      exact nested_covers library _ _ nonempty (delegate_table_mem library delegate.target) allowed
    next => exact tokenOver_covers library .text _ nonempty

theorem nonempty_covers {done piece back : List Char}
    (split : engine.after = done ++ (piece ++ back)) (action : GroupAction) {start stop : Nat}
    (aligned : byteLength done = start) (size : start + byteLength piece = stop) :
    Covers library engine (engine.cursor + start)
      ((Part.nonempty start stop action).map (engine.itemOf library)) piece := by
  subst aligned size
  unfold Part.nonempty
  split
  next proper =>
    have nonempty : piece ≠ [] := by rintro rfl; simp [byteLength] at proper
    exact itemOf_covers library split nonempty action
  next improper =>
    have empty : piece = [] := byteLength_eq_zero_iff.mp (by omega)
    subst empty
    exact .nil _

/-- The parts of a match with groups cover what the match has not covered yet. A group that reaches
past that is cut at its front, and the gap before it is text of its own. -/
theorem ofGroups_covers (groups : List (GroupAction × Option Regex.Extent))
    {done todo back : List Char} (split : engine.after = done ++ (todo ++ back))
    {covered stop : Nat} (aligned : byteLength done = covered)
    (size : covered + byteLength todo = stop)
    (within : ∀ entry ∈ groups, ∀ extent ∈ entry.2, extent.Within engine.after stop) :
    Covers library engine (engine.cursor + covered)
      ((Part.ofGroups covered groups stop).map (engine.itemOf library)) todo := by
  induction groups generalizing done todo covered with
  | nil => exact nonempty_covers library split .skip aligned size
  | cons entry rest ih =>
    obtain ⟨action, extent⟩ := entry
    have later := fun entry member => within entry (List.mem_cons_of_mem _ member)
    cases extent with
    | none => exact ih split aligned size later
    | some extent =>
      have here : extent.Within engine.after stop := within _ List.mem_cons_self extent rfl
      simp only [Part.ofGroups]
      split
      next => exact ih split aligned size later
      next reaches =>
        -- What is not covered yet falls into the gap before the group, the part of the group that
        -- is left and what comes after it; the cuts between them are boundaries.
        have ordered := here.ordered
        have bounded := here.bounded
        obtain ⟨taken, left, rfl, htaken⟩ := here.stops.exists_cut split (by omega) (by omega)
        have startBoundary : IsBoundary engine.after (max extent.start covered) := by
          rcases Nat.le_total extent.start covered with le | le
          · rw [Nat.max_eq_right le]
            exact ⟨done, _, split, aligned⟩
          · rw [Nat.max_eq_left le]
            exact here.starts
        have splitTaken : engine.after = done ++ (taken ++ (left ++ back)) := by simp [split]
        obtain ⟨gap, piece, rfl, hgap⟩ :=
          startBoundary.exists_cut splitTaken (by omega) (by omega)
        simp only [byteLength_append] at htaken size
        have gapItems : Covers library engine (engine.cursor + covered) _ gap :=
          nonempty_covers library (by simpa using split) .skip aligned (aligned ▸ hgap)
        have splitPiece : engine.after = (done ++ gap) ++ (piece ++ (left ++ back)) := by
          simp [split]
        have pieceItems :
            Covers library engine (engine.cursor + max extent.start covered) _ piece :=
          nonempty_covers library splitPiece action (by rw [byteLength_append, hgap])
            (by omega : _ = extent.stop)
        have splitLeft : engine.after = (done ++ (gap ++ piece)) ++ (left ++ back) := by
          simp [split]
        have leftItems : Covers library engine (engine.cursor + extent.stop) _ left :=
          ih splitLeft (by simpa only [byteLength_append]) (by omega) later
        rw [List.map_append, List.map_append]
        refine (gapItems.append ?_).append ?_
        · rwa [show engine.cursor + covered + byteLength gap =
            engine.cursor + max extent.start covered by omega]
        · rwa [byteLength_append,
            show engine.cursor + covered + (byteLength gap + byteLength piece) =
              engine.cursor + extent.stop by omega]

/-! ### Steps -/

theorem ofMatch_covers {found : Match} {front back : List Char} (action : Action)
    (split : engine.after = front ++ back) (size : byteLength front = found.stop)
    (within : found.Within engine.after) :
    Covers library engine engine.cursor ((Part.ofMatch action found).map (engine.itemOf library))
      front := by
  have split : engine.after = [] ++ (front ++ back) := split
  have size : 0 + byteLength front = found.stop := by omega
  cases action with
  | token kind => exact nonempty_covers library split (.kind kind) rfl size
  | delegate delegate => exact nonempty_covers library split (.delegate delegate) rfl size
  | byGroups groups =>
    apply ofGroups_covers library _ split rfl size
    intro entry member extent hextent
    have member := (List.of_mem_zip member).2
    rw [Option.mem_def.mp hextent] at member
    exact within.groups extent member

theorem move_passes {front back : List Char} (split : engine.after = front ++ back)
    (idle : front = [] → engine.idle < idleLimit) :
    Passes engine front (engine.move (byteLength front)) := by
  have cut : splitOnto engine.before engine.after (byteLength front) =
      some (front.reverse ++ engine.before, back) :=
    splitOnto_eq_some_iff.mpr ⟨front, split, rfl, rfl⟩
  unfold move
  simp only [cut]
  refine ⟨rfl, rfl, split, rfl, rfl, ?_⟩
  by_cases empty : front = []
  · exact .inl ⟨empty, idle empty, by simp [empty, byteLength]⟩
  · have positive := byteLength_pos empty
    exact .inr ⟨empty, by simp; omega⟩

theorem stack_move (count : Nat) : (engine.move count).stack = engine.stack := by
  unfold move
  split <;> rfl

theorem table_move (count : Nat) : (engine.move count).table = engine.table := by
  unfold move
  split <;> rfl

theorem table_recover : engine.recover.2.table = engine.table := by
  unfold recover
  split
  · rfl
  · split <;> exact table_move _

theorem table_step : (engine.step library).2.table = engine.table := by
  unfold step
  split
  · exact table_move _
  · exact table_recover

/-- The stack plays no part in passing characters. -/
theorem Passes.withStack {front : List Char} {next : Engine} (passes : Passes engine front next)
    (stack : StateStack) : Passes engine front { next with stack } :=
  ⟨passes.table, passes.depth, passes.after, passes.before, passes.cursor, passes.idle⟩

/-- A rule that fires is one of the rules on top of the stack and matches at the cursor, and its
match is empty only if an idle step is left. -/
theorem firing?_eq_some {rule : Rule} {found : Match}
    (fires : engine.firing? = some (rule, found)) :
    rule ∈ engine.rules ∧ rule.pattern.matchHere? engine.before engine.after = some found ∧
      (found.stop = 0 → engine.idle < idleLimit) := by
  obtain ⟨candidate, member, hfound⟩ := List.exists_of_findSome?_eq_some fires
  obtain ⟨found', hmatch, hpair⟩ := Option.map_eq_some_iff.mp hfound
  cases hpair
  obtain ⟨matched, allowed⟩ := Option.filter_eq_some_iff.mp hmatch
  refine ⟨member, matched, ?_⟩
  intro empty
  simpa [empty] using allowed

theorem firing?_eq_none_iff :
    engine.firing? = none ↔ ∀ rule ∈ engine.rules, engine.match? rule = none := by
  simp [firing?, List.findSome?_eq_none_iff]

theorem match?_eq_none_iff {rule : Rule} :
    engine.match? rule = none ↔ rule.pattern.matchHere? engine.before engine.after = none ∨
      (∃ found, rule.pattern.matchHere? engine.before engine.after = some found ∧
        found.stop = 0) ∧ ¬engine.idle < idleLimit := by
  unfold match?
  cases rule.pattern.matchHere? engine.before engine.after with
  | none => simp
  | some found => simp [Option.filter]

theorem fire_passes {rule : Rule} {found : Match} (fires : engine.firing? = some (rule, found)) :
    ∃ front, Passes engine front (engine.fire library rule found).2 ∧
      Covers library engine engine.cursor (engine.fire library rule found).1 front := by
  obtain ⟨-, matched, idle⟩ := firing?_eq_some fires
  have within := Pattern.matchHere?_within matched
  obtain ⟨front, back, split, size⟩ := within.stops
  refine ⟨front, ?_, ofMatch_covers library rule.action split size within⟩
  have empty : front = [] → engine.idle < idleLimit := by
    rintro rfl
    exact idle size.symm
  simpa only [fire, size] using (move_passes split empty).withStack _

theorem recover_passes {char : Char} {rest : List Char} (split : engine.after = char :: rest) :
    Passes engine [char] engine.recover.2 ∧
      Covers library engine engine.cursor engine.recover.1 [char] := by
  have size : byteLength [char] = char.utf8Size := by simp [byteLength]
  have moved : Passes engine [char] (engine.move char.utf8Size) :=
    size ▸ move_passes split (by simp)
  have covers (kind : TokenKind) :
      Covers library engine engine.cursor [engine.tokenOver kind 0 char.utf8Size] [char] := by
    have single := @tokenOver_covers engine library [char] kind 0 (by simp)
    simpa only [Nat.add_zero, Nat.zero_add, size] using single
  unfold recover
  simp only [split]
  split
  · exact ⟨moved.withStack _, covers .whitespace⟩
  · exact ⟨moved, covers .error⟩

/-- A character that no rule matches is a token of its own. -/
theorem items_recover {char : Char} {rest : List Char} (split : engine.after = char :: rest) :
    engine.recover.1 = [.token
      ⟨if char = '\n' ∧ engine.table.options.run.resetOnNewline then .whitespace else .error,
        engine.cursor, engine.cursor + char.utf8Size⟩] := by
  unfold recover
  simp only [split]
  split <;> rfl

/-- An item that a step puts out stands for a part of the match of the rule that fires, or for the
character that is given up. -/
theorem mem_items_step {item : Item} (put : item ∈ (engine.step library).1) :
    (∃ rule found part, engine.firing? = some (rule, found) ∧
      part ∈ Part.ofMatch rule.action found ∧ item = engine.itemOf library part) ∨
    (engine.firing? = none ∧ ∃ char rest, engine.after = char :: rest ∧ item = .token
      ⟨if char = '\n' ∧ engine.table.options.run.resetOnNewline then .whitespace else .error,
        engine.cursor, engine.cursor + char.utf8Size⟩) := by
  unfold step at put
  split at put
  next rule found fires =>
    obtain ⟨part, among, same⟩ := List.mem_map.mp put
    exact .inl ⟨rule, found, part, fires, among, same.symm⟩
  next silent =>
    cases split : engine.after with
    | nil =>
      simp only [recover, split] at put
      cases put
    | cons char rest =>
      rw [items_recover split] at put
      exact .inr ⟨silent, char, rest, rfl, List.mem_singleton.mp put⟩

theorem itemOf_eq_nested {part : Part} {offset : Nat} {inner : Engine}
    (put : engine.itemOf library part = .nested offset inner) :
    ∃ delegate, part.action = .delegate delegate ∧
      engine.depth < engine.table.options.run.maxDelegateDepth ∧
      offset = engine.cursor + part.start ∧
      inner = engine.delegated library delegate part.start part.stop := by
  unfold itemOf at put
  split at put
  · cases put
  · cases put
  next delegate named =>
    split at put
    next allowed =>
      cases put
      exact ⟨delegate, named, allowed, rfl, rfl⟩
    · cases put

variable {library} in
/-- A nested engine is the one that a delegate runs over a part of the match of the rule that
fires. -/
theorem exists_delegate_of_nested {inner : Engine} {offset : Nat}
    (handed : Item.nested offset inner ∈ (engine.step library).1) :
    ∃ rule found part delegate, engine.firing? = some (rule, found) ∧
      part ∈ Part.ofMatch rule.action found ∧ part.action = .delegate delegate ∧
      engine.depth < engine.table.options.run.maxDelegateDepth ∧
      offset = engine.cursor + part.start ∧
      inner = engine.delegated library delegate part.start part.stop := by
  rcases mem_items_step library handed with ⟨rule, found, part, fires, among, put⟩ | given
  · obtain ⟨delegate, named, run⟩ := itemOf_eq_nested library put.symm
    exact ⟨rule, found, part, delegate, fires, among, named, run⟩
  · -- A character that is given up is a token.
    obtain ⟨-, _, _, -, put⟩ := given
    cases put

theorem itemOf_eq_token {part : Part} {token : Token}
    (put : engine.itemOf library part = .token token) :
    part.action = .kind token.kind ∨ token.kind = .text := by
  unfold itemOf at put
  split at put
  next kind named =>
    cases put
    exact .inl named
  · cases put
    exact .inr rfl
  · split at put
    · cases put
    · cases put
      exact .inr rfl

/-- A step that fires a rule moves the cursor to the end of the match. -/
theorem cursor_step_of_fires {rule : Rule} {found : Match}
    (fires : engine.firing? = some (rule, found)) :
    (engine.step library).2.cursor = engine.cursor + found.stop := by
  obtain ⟨-, matched, -⟩ := firing?_eq_some fires
  obtain ⟨front, back, split, size⟩ := (Pattern.matchHere?_within matched).stops
  have cut : splitOnto engine.before engine.after found.stop =
      some (front.reverse ++ engine.before, back) :=
    splitOnto_eq_some_iff.mpr ⟨front, split, rfl, size⟩
  simp [step, fires, fire, move, cut]

/-- A step passes some of the text that is left, and its items cover what it passes. -/
theorem step_passes (engine : Engine) (nonempty : engine.after ≠ []) :
    ∃ front, Passes engine front (engine.step library).2 ∧
      Covers library engine engine.cursor (engine.step library).1 front := by
  unfold step
  cases fires : engine.firing? with
  | some firing =>
    obtain ⟨rule, found⟩ := firing
    exact fire_passes library fires
  | none =>
    obtain ⟨char, rest, split⟩ := List.exists_cons_of_ne_nil nonempty
    exact ⟨[char], recover_passes library split⟩

end Engine

end RuleLexer
