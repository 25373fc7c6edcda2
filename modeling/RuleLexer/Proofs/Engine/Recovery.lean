import RuleLexer.Proofs.Engine.Origin
import RuleLexer.Proofs.Engine.Safety
import RuleLexer.Proofs.Engine.StackLaw
import RuleLexer.Proofs.Tokens.Coverage

/-!
# Recovery

A step gives one character up when no rule fires, and then every rule on top of the stack either does
not match at the cursor or matches the empty text there while the idle steps at this place have all
been made. The number of idle steps that an engine keeps is the number of steps it has made since
its cursor moved last, so both sides can be said of the steps of the run and not of this number.

If no action of a table, or of a table that it hands text to, makes error tokens, such a token tells
that a character has been given up, by whichever engine.

## Main result

`tokenizeFrom_recovers`: error tokens cover one character each and are made only where no rule can
fire, and wherever no rule can fire one character is given up.
-/
namespace RuleLexer

open Text

/-! ### Tables that make no error tokens -/

namespace RuleTable

variable {library : Library} {table : RuleTable}

/-- A rule of a table hands text to a table, as a whole or in groups. -/
def HandsTo (library : Library) (table other : RuleTable) : Prop :=
  ∃ state ∈ table.states, ∃ rule ∈ state.rules, ∃ delegate ∈ rule.action.delegates,
    delegate.target.table? library table = some other

/-- No rule of a table makes an error token, as a whole or of a group. -/
def Unerring (table : RuleTable) : Prop :=
  ∀ state ∈ table.states, ∀ rule ∈ state.rules, .kind .error ∉ rule.action.partActions

instance : Decidable table.Unerring :=
  inferInstanceAs (Decidable (∀ state ∈ table.states, ∀ rule ∈ state.rules, _))

/-- Where no other tables are known, a table hands text only to itself. -/
theorem eq_of_handsTo_nil {other : RuleTable}
    (handed : Relation.ReflTransGen (HandsTo []) table other) : other = table := by
  induction handed with
  | refl => rfl
  | tail _ last ih =>
    obtain ⟨_, -, _, -, delegate, -, found⟩ := last
    rw [← ih]
    cases target : delegate.target with
    | this =>
      rw [target] at found
      exact (Option.some.inj found).symm
    | entry position =>
      rw [target] at found
      cases found

end RuleTable

namespace Engine

variable {library : Library} {origin engine : Engine} {base : Nat}

/-- What a nested engine runs is a table that the one around it hands text to. -/
theorem Reaches.handsTo (reached : Reaches library origin engine) :
    Relation.ReflTransGen (RuleTable.HandsTo library) origin.table engine.table := by
  induction reached with
  | origin => exact .refl
  | step _ _ ih => rwa [table_step]
  | @nested engine inner offset _ _ handed ih =>
    obtain ⟨rule, found, part, delegate, fires, among, named, -, -, rfl⟩ :=
      exists_delegate_of_nested handed
    obtain ⟨member, matched, -⟩ := firing?_eq_some fires
    obtain ⟨-, said⟩ := Part.proper_of_mem_ofMatch (Pattern.matchHere?_within matched) among
    obtain ⟨state, known, inside⟩ := RuleTable.exists_state_of_mem_rules member
    cases target : delegate.target.table? library engine.table with
    | none => simpa [delegated, start, target] using ih
    | some other =>
      have last : RuleTable.HandsTo library engine.table other :=
        ⟨state, known, rule, inside, delegate, Part.mem_delegates said named, target⟩
      simpa [delegated, start, target] using ih.tail last

/-! ### Rules that cannot fire -/

/-- As many steps as may be idle have been made since the cursor came to its place. -/
def Spent (library : Library) (origin : Engine) (base : Nat) (engine : Engine) : Prop :=
  ∃ earlier, Arises library origin base earlier ∧ Steps library idleLimit earlier engine ∧
    earlier.cursor = engine.cursor

/-- No rule on top of the stack can fire: each of them does not match at the cursor, or it matches
the empty text there and the idle steps at this place are spent. -/
def Stuck (library : Library) (origin : Engine) (base : Nat) (engine : Engine) : Prop :=
  ∀ rule ∈ engine.rules, rule.pattern.matchHere? engine.before engine.after = none ∨
    (∃ found, rule.pattern.matchHere? engine.before engine.after = some found ∧ found.stop = 0) ∧
      Spent library origin base engine

theorem Arises.spent_iff (arises : Arises library origin base engine) (fresh : origin.idle = 0) :
    Spent library origin base engine ↔ ¬engine.idle < idleLimit := by
  constructor
  · rintro ⟨earlier, -, steps, still⟩
    have counted := (steps.idle_of_cursor_eq still.symm).1
    omega
  · intro spent
    obtain ⟨earlier, before, first, steps, still⟩ := arises.exists_idle fresh
    -- The idle steps are counted up to the limit and never beyond it.
    obtain ⟨-, bounded⟩ := steps.idle_of_cursor_eq still.symm
    have all : engine.idle = idleLimit := by
      simp only [idleLimit] at *
      omega
    exact ⟨earlier, before, all ▸ steps, still⟩

theorem Arises.stuck_iff (arises : Arises library origin base engine) (fresh : origin.idle = 0) :
    Stuck library origin base engine ↔ engine.firing? = none := by
  simp only [firing?_eq_none_iff, match?_eq_none_iff, ← arises.spent_iff fresh, Stuck]

/-- An engine whose table makes no error tokens puts one out only where no rule fires. -/
theorem silent_of_error (unerring : engine.table.Unerring) {token : Token}
    (put : .token token ∈ (engine.step library).1) (error : token.kind = .error) :
    engine.firing? = none ∧ ∃ char rest, engine.after = char :: rest ∧
      token = ⟨.error, engine.cursor, engine.cursor + char.utf8Size⟩ := by
  rcases mem_items_step library put with ⟨rule, found, part, fires, among, same⟩ | given
  · obtain ⟨member, matched, -⟩ := firing?_eq_some fires
    obtain ⟨-, said⟩ := Part.proper_of_mem_ofMatch (Pattern.matchHere?_within matched) among
    obtain ⟨state, known, inside⟩ := RuleTable.exists_state_of_mem_rules member
    -- The kind of the token would have to stand in the action of the rule.
    have kind : part.action = .kind .error := by
      rcases itemOf_eq_token library same.symm with kind | text
      · rwa [error] at kind
      · rw [error] at text
        cases text
    rw [kind] at said
    exact absurd (said.resolve_left (by simp)) (unerring state known rule inside)
  · obtain ⟨silent, char, rest, split, same⟩ := given
    cases same
    dsimp only at error
    rw [error]
    exact ⟨silent, char, rest, split, rfl⟩

/-- A token over what comes next, moved to where the text of the engine begins, has it for its
text. -/
theorem Arises.text_of_piece (arises : Arises library origin base engine) (aligned : origin.Aligned)
    {piece rest : List Char} (split : engine.after = piece ++ rest) (kind : TokenKind) :
    (Token.shift base ⟨kind, engine.cursor, engine.cursor + byteLength piece⟩).text origin.text =
      .ok piece := by
  obtain ⟨front, back, whole, rfl⟩ := arises.exists_within aligned
  have cursor := arises.reaches.aligned aligned
  unfold Aligned at cursor
  have within : origin.text = (front ++ engine.before.reverse) ++ (piece ++ (rest ++ back)) := by
    rw [whole]
    simp [text, split]
  apply Token.text_eq_ok within
  · rw [byteLength_append, ← cursor]
    exact Nat.add_comm _ _
  · rw [byteLength_append, ← cursor]
    simp only [Token.shift]
    omega

/-- This is so for the character at the cursor. -/
theorem Arises.text_eq_ok (arises : Arises library origin base engine) (aligned : origin.Aligned)
    {char : Char} {rest : List Char} (split : engine.after = char :: rest) (kind : TokenKind) :
    (Token.shift base ⟨kind, engine.cursor, engine.cursor + char.utf8Size⟩).text origin.text =
      .ok [char] := by
  have single : engine.after = [char] ++ rest := split
  simpa [byteLength] using arises.text_of_piece aligned single kind

/-- Where no rule can fire, the character at the cursor is put out by itself and passed. -/
theorem step_of_silent (silent : engine.firing? = none) {char : Char} {rest : List Char}
    (split : engine.after = char :: rest) :
    (engine.step library).1 = [.token
      ⟨if char = '\n' ∧ engine.table.options.run.resetOnNewline then .whitespace else .error,
        engine.cursor, engine.cursor + char.utf8Size⟩] ∧
    (engine.step library).2.cursor = engine.cursor + char.utf8Size ∧
    (engine.step library).2.before = char :: engine.before ∧
    (engine.step library).2.after = rest ∧ (engine.step library).2.idle = 0 := by
  have passes := (recover_passes library split).1
  have rest : (engine.recover).2.after = rest := by simpa [split] using passes.after.symm
  have fresh : (engine.recover).2.idle = 0 := by simpa using passes.idle
  simp only [step, silent]
  exact ⟨items_recover split, by simpa [byteLength] using passes.cursor,
    by simpa using passes.before, rest, fresh⟩

end Engine

/-- **Recovery.** Suppose that neither a table nor any table that it hands text to, directly or not,
makes error tokens by its actions. Then every error token covers one character and has been put out,
by the engine of the tokenization or a nested one, where no rule on top of the stack could fire.
Conversely, where no rule can fire and text is left, the step puts out the next character and nothing
else, as whitespace if it is a line end that resets the stack, which is then cut down to its bottom,
and as an error otherwise, with the stack as it was; the engine goes on right after the character. -/
theorem tokenizeFrom_recovers {library : Library} {table : RuleTable}
    (unerring : ∀ other, Relation.ReflTransGen (RuleTable.HandsTo library) table other →
      other.Unerring)
    (text : List Char) (state : String) :
    let delivered := (table.tokenizeFrom library text state).drain.1
    let origin := Engine.start table text state 0
    (∀ token ∈ delivered, token.kind = .error →
      ∃ base engine char rest, Engine.Arises library origin base engine ∧
        engine.after = char :: rest ∧
        (engine.step library).1 =
          [.token ⟨.error, engine.cursor, engine.cursor + char.utf8Size⟩] ∧
        token = Token.shift base ⟨.error, engine.cursor, engine.cursor + char.utf8Size⟩ ∧
        token.text text = .ok [char] ∧ Engine.Stuck library origin base engine) ∧
    ∀ base engine char rest, Engine.Arises library origin base engine →
      engine.after = char :: rest → Engine.Stuck library origin base engine →
        let resets := char = '\n' ∧ engine.table.options.run.resetOnNewline
        let given : Token := ⟨if resets then .whitespace else .error, engine.cursor,
          engine.cursor + char.utf8Size⟩
        (engine.step library).1 = [.token given] ∧ given.shift base ∈ delivered ∧
        (given.shift base).text text = .ok [char] ∧
        (engine.step library).2.stack.toList =
          (if resets then engine.stack.toList.take 1 else engine.stack.toList) ∧
        (engine.step library).2.cursor = engine.cursor + char.utf8Size ∧
        (engine.step library).2.before = char :: engine.before ∧
        (engine.step library).2.after = rest := by
  intro delivered origin
  have whole : delivered = (origin.run library).1 := (Tokens.drain_start library table text state).1
  have aligned : origin.Aligned := Engine.aligned_start table text state 0
  have wholeText : origin.text = text := rfl
  constructor
  · intro token member error
    rw [whole, Engine.mem_run_iff] at member
    obtain ⟨base, engine, raw, arises, nonempty, put, rfl⟩ := member
    have quiet := unerring engine.table arises.reaches.handsTo
    obtain ⟨silent, char, rest, split, rfl⟩ := Engine.silent_of_error quiet put error
    -- The step puts out one item only, so the token is this item.
    obtain ⟨items, -⟩ := @Engine.step_of_silent library engine silent char rest split
    have only : Item.token _ = Item.token _ := List.mem_singleton.mp (items ▸ put)
    refine ⟨base, engine, char, rest, arises, split, items.trans (only ▸ rfl), rfl, ?_,
      (arises.stuck_iff rfl).mpr silent⟩
    exact arises.text_eq_ok aligned split .error
  · intro base engine char rest arises split stuck resets given
    have silent := (arises.stuck_iff rfl).mp stuck
    obtain ⟨items, cursor, before, after, -⟩ :=
      @Engine.step_of_silent library engine silent char rest split
    have stack := @Engine.stack_step_of_silent library engine silent
    have put : Item.token given ∈ (engine.step library).1 := items ▸ List.mem_singleton_self _
    refine ⟨items, ?_, arises.text_eq_ok aligned split _, ?_, cursor, before, after⟩
    · rw [whole, Engine.mem_run_iff]
      exact ⟨base, engine, given, arises, by simp [split], put, rfl⟩
    · simpa [split] using stack

/-- A mark in parentheses is given up by the engine that is handed what they enclose, after pushing
its state again and again. -/
theorem tokenizeFrom_recovers_of_marks :
    let marks : TableDef := ⟨"marks", {}, [⟨"root", [.staying "[a-z]+" (.token .name),
      .staying "(\\()([^)]*)(\\))"
        (.byGroups [.kind .punctuation, .delegate ⟨.this, none⟩, .kind .punctuation]),
      .rule "" (.token .text) .pushCurrent]⟩]⟩
    ∃ table, marks.build [] = .ok table ∧
      (∀ other, Relation.ReflTransGen (RuleTable.HandsTo []) table other → other.Unerring) ∧
      (table.tokenizeFrom [] "a(b?)".toList "root").drain.1 = [⟨.name, 0, 1⟩, ⟨.punctuation, 1, 2⟩,
        ⟨.name, 2, 3⟩, ⟨.error, 3, 4⟩, ⟨.punctuation, 4, 5⟩] ∧
      ∃ base engine char rest,
        Engine.Arises [] (.start table "a(b?)".toList "root" 0) base engine ∧
        engine.after = char :: rest ∧ base + engine.cursor = 3 ∧
        Engine.Stuck [] (.start table "a(b?)".toList "root" 0) base engine := by
  intro marks
  obtain ⟨table, built, quiet, tokens⟩ : ∃ table, marks.build [] = .ok table ∧ table.Unerring ∧
      (table.tokenizeFrom [] "a(b?)".toList "root").drain.1 = [⟨.name, 0, 1⟩, ⟨.punctuation, 1, 2⟩,
        ⟨.name, 2, 3⟩, ⟨.error, 3, 4⟩, ⟨.punctuation, 4, 5⟩] :=
    ⟨_, rfl, by decide +kernel, by decide +kernel⟩
  have unerring : ∀ other, Relation.ReflTransGen (RuleTable.HandsTo []) table other →
      other.Unerring := by
    intro other handed
    rwa [RuleTable.eq_of_handsTo_nil handed]
  have among : ⟨.error, 3, 4⟩ ∈ (table.tokenizeFrom [] "a(b?)".toList "root").drain.1 := by
    rw [tokens]
    simp
  obtain ⟨base, engine, char, rest, arises, split, -, same, -, stuck⟩ :=
    (tokenizeFrom_recovers unerring "a(b?)".toList "root").1 _ among rfl
  have place : engine.cursor + base = 3 := (congrArg Token.start same).symm
  exact ⟨table, built, unerring, tokens, base, engine, char, rest, arises, split, by omega, stuck⟩

end RuleLexer
