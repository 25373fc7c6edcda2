import RuleLexer.Proofs.Engine.Classification

/-!
# Runaway delegation

A rule that matches a whole text may hand it to the root of its own table, where the same rule
matches the whole text again. The text does not get shorter on the way down, so all that ends this
is the limit on nested tokenizations: the innermost engine leaves the text as one token. Each engine
around it has handed on all of its text, so on the way up the token stays what it is.

The limit is asked for wherever a part of a match is handed on, by the engine that hands it on and
for its own table. Where a table allows less than the one around it, an engine can be nested more
deeply than its table allows; it is treated as one that has just reached the limit.

## Main definitions

* `RuleTable.HandsBack`: a rule matches a whole text first and hands it back to its table.
* `Engine.HandsOn`: an engine hands on a part of its text.

## Main results

* `RuleTable.HandsBack.run_eq`: a text that is handed back is one token, at whatever depth.
* `tokenizeFrom_capped`: so it is for whole streams, and any part that is handed on at the limit is
  one token of the stream.
-/
namespace RuleLexer

open Text Regex

/-- At the beginning of a text the search for a match at an offset has nothing to skip. -/
theorem Pattern.matchAt_zero (pattern : Pattern) (text : List Char) :
    pattern.matchAt text 0 = .ok (pattern.matchHere? [] text) := by
  have cut : splitAt? text 0 = some ([], text) := splitAt?_eq_some_iff.mpr ⟨rfl, rfl⟩
  simp [matchAt, cut]

/-- A rule of the root is the first one that matches at the beginning of a text, matches all of it
and hands it to the root of the same table. -/
structure RuleTable.HandsBack (table : RuleTable) (text : List Char) (rule : Rule) : Prop where
  first : ∃ earlier later, table.rules rootName = earlier ++ rule :: later ∧
    ∀ other ∈ earlier, other.pattern.matchAt text 0 = .ok none
  whole : ∃ found, rule.pattern.matchAt text 0 = .ok (some found) ∧ found.stop = byteLength text
  back : ∃ start, rule.action = .delegate ⟨.this, start⟩ ∧ start.getD rootName = rootName

/-! ### Parts that are handed on -/

namespace Engine

/-- At the next step an engine hands a part of the text that is not empty to a nested tokenization,
in bytes from the cursor: all of a match, or what groups with lower numbers have left of a group. -/
inductive HandsOn (engine : Engine) (delegate : Delegate) : Nat → Nat → Prop
  | whole {rule : Rule} {found : Match} (fires : engine.firing? = some (rule, found))
      (action : rule.action = .delegate delegate) (nonempty : 0 < found.stop) :
      HandsOn engine delegate 0 found.stop
  | group {rule : Rule} {found : Match} {actions : List GroupAction} {lower higher : Part.Grouping}
      {extent : Extent} (fires : engine.firing? = some (rule, found))
      (action : rule.action = .byGroups actions)
      (groups : actions.zip found.groups = lower ++ (.delegate delegate, some extent) :: higher)
      (nonempty : max extent.start (Part.reach 0 lower) < extent.stop) :
      HandsOn engine delegate (max extent.start (Part.reach 0 lower)) extent.stop

variable {library : Library} {origin engine : Engine} {base start stop : Nat} {part : Part}
  {delegate : Delegate} {rule : Rule} {found : Match}

theorem HandsOn.exists_part (handed : engine.HandsOn delegate start stop) :
    ∃ rule found front back, engine.firing? = some (rule, found) ∧
      Part.ofMatch rule.action found = front ++ ⟨start, stop, .delegate delegate⟩ :: back := by
  cases handed with
  | @whole rule found fires action nonempty =>
    refine ⟨rule, found, [], [], fires, ?_⟩
    simp only [Part.ofMatch, action, Part.nonempty, if_pos nonempty, List.nil_append]
  | @group rule found actions lower higher extent fires action groups nonempty =>
    obtain ⟨front, back, parts⟩ :=
      Part.exists_taken (.delegate delegate) higher found.stop nonempty
    exact ⟨rule, found, front, back, fires, by simp only [Part.ofMatch, action, groups, parts]⟩

theorem after_ne_nil_of_part (fires : engine.firing? = some (rule, found))
    (among : part ∈ Part.ofMatch rule.action found) : engine.after ≠ [] := by
  have within := Pattern.matchHere?_within (firing?_eq_some fires).2.1
  exact (Part.proper_of_mem_ofMatch within among).1.ne_nil

/-- Below the limit a nested engine comes about where the part begins. -/
theorem Arises.delegated (arises : Arises library origin base engine)
    (handed : engine.HandsOn delegate start stop)
    (allowed : engine.depth < engine.table.options.run.maxDelegateDepth) :
    Arises library origin (base + (engine.cursor + start))
      (engine.delegated library delegate start stop) := by
  obtain ⟨rule, found, front, back, fires, split⟩ := handed.exists_part
  have among : ⟨start, stop, .delegate delegate⟩ ∈ Part.ofMatch rule.action found := by
    simp [split]
  have put := mem_items_of_fires library fires among
  rw [itemOf_of_allowed library rfl allowed] at put
  exact arises.nested (after_ne_nil_of_part fires among) put

theorem itemOf_of_capped (library : Library) (handed : part.action = .delegate delegate)
    (capped : engine.table.options.run.maxDelegateDepth ≤ engine.depth) :
    engine.itemOf library part = engine.tokenOver .text part.start part.stop := by
  simp only [itemOf, handed, if_neg (Nat.not_lt.mpr capped)]

/-- At the limit the part is one token among those of the run. -/
theorem HandsOn.token_infix (handed : engine.HandsOn delegate start stop)
    (arises : Arises library origin base engine)
    (capped : engine.table.options.run.maxDelegateDepth ≤ engine.depth) :
    [Token.shift base ⟨.text, engine.cursor + start, engine.cursor + stop⟩] <:+:
      (origin.run library).1 := by
  obtain ⟨rule, found, front, back, fires, split⟩ := handed.exists_part
  have among : ⟨start, stop, .delegate delegate⟩ ∈ Part.ofMatch rule.action found := by
    simp [split]
  have step : Item.tokens library [engine.itemOf library _] <:+: _ :=
    tokens_itemOf_infix fires split
  rw [itemOf_of_capped library rfl capped, tokenOver, Item.tokens, Item.tokens] at step
  -- The tokens of the step are the first ones of the engine's run, which is part of the whole run.
  have run : [⟨.text, engine.cursor + start, engine.cursor + stop⟩] <:+:
      (engine.run library).1 := by
    rw [run_of_nonempty (after_ne_nil_of_part fires among)]
    exact step.trans (List.prefix_append _ _).isInfix
  exact (run.map (Token.shift base)).trans arises.map_shift_run_infix

/-- An engine that hands on all of its text makes one step. -/
theorem run_of_whole (library : Library) (fires : engine.firing? = some (rule, found))
    (action : rule.action = .delegate delegate) (whole : found.stop = byteLength engine.after)
    (nonempty : engine.after ≠ []) :
    (engine.run library).1 = Item.tokens library
      [engine.itemOf library ⟨0, byteLength engine.after, .delegate delegate⟩] := by
  have moves := byteLength_pos nonempty
  have cut : splitOnto engine.before engine.after (byteLength engine.after) =
      some (engine.after.reverse ++ engine.before, []) :=
    splitOnto_eq_some_iff.mpr ⟨engine.after, by simp, rfl, rfl⟩
  -- The transition changes the stack only, so it does not matter which one the rule has.
  have drained : (engine.step library).2.after = [] := by
    simp [step, fires, fire, move, whole, cut]
  have items : (engine.step library).1 =
      [engine.itemOf library ⟨0, byteLength engine.after, .delegate delegate⟩] := by
    simp [step, fires, fire, Part.ofMatch, action, Part.nonempty, whole, moves]
  rw [run_of_nonempty nonempty, run_of_drained drained, items, List.append_nil]

end Engine

/-! ### Texts that are handed back -/

namespace RuleTable.HandsBack

variable {library : Library} {table : RuleTable} {text : List Char} {rule : Rule}

theorem withRunOptions (back : table.HandsBack text rule) (run : RunOptions) :
    (table.withRunOptions run).HandsBack text rule :=
  ⟨back.first, back.whole, back.back⟩

theorem exists_firing (back : table.HandsBack text rule) (nonempty : text ≠ []) (depth : Nat) :
    ∃ found, (Engine.start table text rootName depth).firing? = some (rule, found) ∧
      found.stop = byteLength text := by
  obtain ⟨earlier, later, rules, silent⟩ := back.first
  obtain ⟨found, matched, whole⟩ := back.whole
  simp only [Pattern.matchAt_zero, Except.ok.injEq] at silent matched
  have moves : 0 < found.stop := whole ▸ byteLength_pos nonempty
  exact ⟨found, Engine.firing?_of_rules rules silent matched moves, whole⟩

/-- The nested engine is the one around it, one level deeper. -/
theorem delegated_eq (library : Library) (table : RuleTable) (text : List Char) (depth : Nat)
    {start : Option String} (root : start.getD rootName = rootName) :
    (Engine.start table text rootName depth).delegated library ⟨.this, start⟩ 0 (byteLength text) =
      .start table text rootName (depth + 1) := by
  have split : (Engine.start table text rootName depth).after = [] ++ (text ++ []) := by
    simp [Engine.start]
  have whole : (Engine.start table text rootName depth).textOver 0 (byteLength text) = text := by
    simpa [byteLength] using Engine.textOver_eq split
  -- The root may be named or not, and it is even if the table does not have it.
  have state : (start.filter table.hasState).getD rootName = rootName := by
    cases start with
    | none => rfl
    | some name =>
      obtain rfl : name = rootName := root
      cases known : table.hasState rootName <;> simp [Option.filter, known]
  have running : (Engine.start table text rootName depth).table = table := rfl
  simp only [Engine.delegated, DelegateTarget.table?, Option.getD_some, whole, running, state]
  rfl

theorem run_eq_ite (back : table.HandsBack text rule) (nonempty : text ≠ []) (depth : Nat) :
    ((Engine.start table text rootName depth).run library).1 =
      if depth < table.options.run.maxDelegateDepth then
        ((Engine.start table text rootName (depth + 1)).run library).1
      else [⟨.text, 0, byteLength text⟩] := by
  obtain ⟨start, action, root⟩ := back.back
  obtain ⟨found, fires, whole⟩ := back.exists_firing nonempty depth
  rw [Engine.run_of_whole library fires action whole nonempty]
  split
  next allowed =>
    have again := delegated_eq library table text depth root
    rw [Engine.itemOf_of_allowed library rfl allowed]
    simp only [Item.tokens, Engine.start] at again ⊢
    rw [again]
    simp
  next capped =>
    rw [Engine.itemOf_of_capped library rfl (Nat.le_of_not_lt capped)]
    simp [Engine.tokenOver, Item.tokens, Engine.start]

theorem run_eq (back : table.HandsBack text rule) (nonempty : text ≠ []) (depth : Nat) :
    ((Engine.start table text rootName depth).run library).1 = [⟨.text, 0, byteLength text⟩] := by
  -- The text stays the same from level to level, and what gets less is the levels that are left.
  induction levels : table.options.run.maxDelegateDepth - depth generalizing depth with
  | zero => rw [back.run_eq_ite nonempty, if_neg (by omega)]
  | succ levels ih =>
    rw [back.run_eq_ite nonempty, if_pos (by omega)]
    exact ih (depth + 1) (by omega)

end RuleTable.HandsBack

/-- **The limit on nesting.** If the first rule of the root that matches at the beginning of a text
matches all of it and hands it back to the root, the text is one token of text, however deep
tokenizations may be nested and whatever the transition of the rule is. In every tokenization, a
part of the text that an engine hands on when it is nested as deeply as its table allows, or more
deeply, is one token of text: it is among the tokens of the stream, and every other token stops
where it starts or before, or starts where it stops or later. -/
theorem tokenizeFrom_capped (library : Library) (table : RuleTable) (text : List Char) :
    (∀ rule, table.HandsBack text rule → text ≠ [] → ∀ run : RunOptions,
      ((table.withRunOptions run).tokenize library text).drain.1 =
        [⟨.text, 0, byteLength text⟩]) ∧
    ∀ state base engine delegate start stop,
      Engine.Arises library (.start table text state 0) base engine →
      engine.HandsOn delegate start stop →
      engine.table.options.run.maxDelegateDepth ≤ engine.depth →
        let token : Token := Token.shift base ⟨.text, engine.cursor + start, engine.cursor + stop⟩
        ∃ before after,
          (table.tokenizeFrom library text state).drain.1 = before ++ token :: after ∧
          (∀ other ∈ before, other.stop ≤ token.start) ∧
          ∀ other ∈ after, token.stop ≤ other.start := by
  constructor
  · intro rule back nonempty run
    have whole := Tokens.drain_start library (table.withRunOptions run) text RuleTable.rootName
    exact whole.1.trans ((back.withRunOptions run).run_eq nonempty 0)
  · intro state base engine delegate start stop arises handed capped token
    obtain ⟨before, after, delivered⟩ := handed.token_infix arises capped
    rw [← (Tokens.drain_start library table text state).1, List.append_assoc] at delivered
    -- Tokens that spell a text are in the order of the text, so no other one reaches into this one.
    have ordered := (Tokens.drain_spells library table text state).pairwise
    rw [← delivered, List.pairwise_map, List.pairwise_append, List.singleton_append,
      List.pairwise_cons] at ordered
    obtain ⟨-, ⟨later, -⟩, earlier⟩ := ordered
    exact ⟨before, after, delivered.symm,
      fun other member => earlier other member token List.mem_cons_self, later⟩

/-- A word is handed back to its table three times. A quotation behind a mark is handed to a table
that allows no nesting at all, so what stands between its signs is not handed on. -/
theorem tokenizeFrom_capped_of_quotes :
    let echo : TableDef := ⟨"echo", {}, [⟨"root", [.staying "[0-9]+" (.token .number),
      .rule "[a-zé]+" (.delegate ⟨.this, some "root"⟩) .pushCurrent]⟩]⟩
    let quotes : TableDef := ⟨"quotes", { run := { maxDelegateDepth := 0 } }, [⟨"root", [
      .staying "(')([a-z]*)(')"
        (.byGroups [.kind .string, .delegate ⟨.this, none⟩, .kind .string])]⟩]⟩
    let marks : TableDef := ⟨"marks", {}, [⟨"root", [
      .staying "(#)(.*)" (.byGroups [.kind .comment, .delegate ⟨.entry 0, none⟩])]⟩]⟩
    (∃ table rule, echo.build [] = .ok table ∧ table.HandsBack "été".toList rule ∧
      ((table.withRunOptions { maxDelegateDepth := 3 }).tokenize [] "été".toList).drain.1 =
        [⟨.text, 0, 5⟩]) ∧
    ∃ inner outer engine, quotes.build [] = .ok inner ∧ marks.build [inner] = .ok outer ∧
      Engine.Arises [inner] (.start outer "#'ab'".toList "root" 0) 1 engine ∧
      engine.HandsOn ⟨.this, none⟩ 1 3 ∧
      engine.table.options.run.maxDelegateDepth < engine.depth ∧
      ∃ before after, (outer.tokenizeFrom [inner] "#'ab'".toList "root").drain.1 =
          before ++ ⟨.text, 2, 4⟩ :: after ∧
        (∀ other ∈ before, other.stop ≤ 2) ∧ ∀ other ∈ after, 4 ≤ other.start := by
  intro echo quotes marks
  constructor
  · have checked : (echo.build []).toOption.any fun table =>
        (table.rules "root").map
            (fun rule => ((rule.pattern.matchAt "été".toList 0).toOption, rule.action)) =
          [(some none, .token .number), (some (some ⟨5, []⟩), .delegate ⟨.this, some "root"⟩)] := by
      decide +kernel
    obtain ⟨table, done, checked⟩ := exists_ok_of_any checked
    obtain ⟨first, others, rules, silent, checked⟩ :=
      List.map_eq_cons_iff.mp (of_decide_eq_true checked)
    obtain ⟨rule, rfl, matched⟩ := List.map_eq_singleton_iff.mp checked
    obtain ⟨silent, -⟩ := Prod.mk.inj silent
    obtain ⟨matched, action⟩ := Prod.mk.inj matched
    have back : table.HandsBack "été".toList rule :=
      ⟨⟨[first], [], rules, List.forall_mem_singleton.mpr (eq_ok_of_toOption silent)⟩,
        ⟨_, eq_ok_of_toOption matched, rfl⟩, ⟨_, action, rfl⟩⟩
    exact ⟨table, rule, done, back, (tokenizeFrom_capped [] table _).1 rule back (by decide) _⟩
  · have checked : (quotes.build []).toOption.any fun inner =>
        (marks.build [inner]).toOption.any fun outer =>
          let origin := Engine.start outer "#'ab'".toList "root" 0
          let engine := origin.delegated [inner] ⟨.entry 0, none⟩ 1 5
          origin.firing?.any (fun firing =>
            firing.1.action = .byGroups [.kind .comment, .delegate ⟨.entry 0, none⟩] ∧
              firing.2 = ⟨5, [some ⟨0, 1⟩, some ⟨1, 5⟩]⟩ ∧
              0 < outer.options.run.maxDelegateDepth) &&
          engine.firing?.any fun firing =>
            firing.1.action = .byGroups [.kind .string, .delegate ⟨.this, none⟩, .kind .string] ∧
              firing.2 = ⟨4, [some ⟨0, 1⟩, some ⟨1, 3⟩, some ⟨3, 4⟩]⟩ ∧
              engine.table.options.run.maxDelegateDepth < engine.depth := by
      decide +kernel
    obtain ⟨inner, doneInner, checked⟩ := exists_ok_of_any checked
    obtain ⟨outer, done, checked⟩ := exists_ok_of_any checked
    obtain ⟨outside, inside⟩ := (Bool.and_eq_true _ _).mp checked
    obtain ⟨⟨rule, found⟩, fires, outside⟩ := (Option.any_eq_true _ _).mp outside
    obtain ⟨action, rfl, allowed⟩ := of_decide_eq_true outside
    obtain ⟨⟨ruleInside, foundInside⟩, firesInside, inside⟩ := (Option.any_eq_true _ _).mp inside
    obtain ⟨actionInside, rfl, capped⟩ := of_decide_eq_true inside
    -- In both engines the second group of the match is handed on, and the first one ends before it.
    have handed : Engine.HandsOn _ ⟨.entry 0, none⟩ 1 5 :=
      @Engine.HandsOn.group _ _ _ _ _ [_] [] _ fires action rfl (by decide)
    have handedInside : Engine.HandsOn _ ⟨.this, none⟩ 1 3 :=
      @Engine.HandsOn.group _ _ _ _ _ [_] [_] _ firesInside actionInside rfl (by decide)
    have arises : Engine.Arises [inner] _ 1 _ := .delegated .origin handed allowed
    exact ⟨inner, outer, _, doneInner, done, arises, handedInside, capped,
      (tokenizeFrom_capped [inner] outer _).2 "root" _ _ _ 1 3 arises handedInside capped.le⟩

end RuleLexer
