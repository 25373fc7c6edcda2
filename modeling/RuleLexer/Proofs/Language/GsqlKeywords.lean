import RuleLexer.Proofs.Engine.Recovery
import RuleLexer.Proofs.Language.GsqlRules
import RuleLexer.Proofs.Regex.Stretches

/-!
# Keywords of GSQL

A keyword is meant to be a whole word, but its pattern asks only for an edge of a word behind it. So
the beginning of a word may be cut off by another rule, and what is left of it may be a keyword: in
`order_by` the name of a clause and an underscore are taken first, and `by` is a keyword. A run is
followed step by step to tell which places inside a word it comes to. Only a token of a kind that
may be cut out of a word ends at such a place. What an edge hands on stands in parentheses, so a
keyword in it has the same neighbours there as in the whole text.

## Main results

* `Gsql.keyword_whole_or_cut`: no dot stands before a keyword and no character of a word after it,
  and where a character of a word stands before it, a token ends that has cut the word.
* `Gsql.exists_keyword_inside_word`: there is such a word.
-/
namespace RuleLexer

open Text Regex

namespace Gsql

/-! ### Matches of keywords and edges -/

/-- The look-behind of keywords lets no match start right after a dot. -/
theorem head?_ne_dot_of_allows {before : List Char}
    (allowed : noDotBehind.allows before) :
    before.head? ≠ some '.' := by
  intro dot
  obtain ⟨rest, rfl⟩ := List.head?_eq_some_iff.mp dot
  have found : noDotBehind.expr.occurs none ('.' :: rest) := by
    refine (Expr.occurs_iff ..).mpr ⟨[], ['.'], rest, rfl, ['.'], [], rfl, rfl, rfl, ?_⟩
    simp [Assertion.holds]
  rw [Lookbehind.allows, found] at allowed
  cases allowed

/-- A keyword begins and ends with characters of words, no dot stands before it, and no character of
a word after it. -/
theorem KeywordPattern.borders {pattern : Pattern} (keyword : KeywordPattern pattern)
    {before front back : List Char} {found : Match}
    (matched : pattern.matchHere? before (front ++ back) = some found)
    (size : byteLength front = found.stop) :
    before.head? ≠ some '.' ∧ WordScope.unicode.at front.head? ∧
      WordScope.unicode.at front.getLast? ∧ ¬WordScope.unicode.at back.head? := by
  have allowed := (Pattern.exists_matches_of_matchHere? matched).1 _ keyword.dotless
  obtain ⟨later, way⟩ := Pattern.matches_of_matchHere? matched size
  have nonempty := way.ne_nil_of_mustConsume keyword.consumes
  have first : WordScope.unicode.at front.head? := by
    rw [List.head?_eq_some_head nonempty]
    exact way.head?_of_startsIn keyword.starts _ (List.head?_eq_some_head nonempty)
  have last : WordScope.unicode.at front.getLast? := by
    rw [List.getLast?_eq_some_getLast nonempty]
    exact way.getLast?_of_endsIn keyword.ends _ (List.getLast?_eq_some_getLast nonempty)
  refine ⟨head?_ne_dot_of_allows allowed, first, last, ?_⟩
  intro ahead
  have edge := way.holds_of_endsAt keyword.edge
  have behind : lastOf before.head? front = front.getLast? := by
    rw [lastOf_eq, List.getLast?_eq_some_getLast nonempty, Option.some_or]
  simp [Assertion.holds, behind, last, ahead] at edge

/-- Groups that follow one another without a gap are the parts of a match. -/
theorem ofMatch_edgeActions {found : Match} {near far : Nat} (first : 0 < near)
    (second : near < far) (third : far < found.stop)
    (extents : found.groups = [some ⟨0, near⟩, some ⟨near, far⟩, some ⟨far, found.stop⟩]) :
    Part.ofMatch (.byGroups edgeActions) found =
      [⟨0, near, .kind .operator⟩, ⟨near, far, .delegate ⟨.this, none⟩⟩,
        ⟨far, found.stop, .kind .operator⟩] := by
  have := Nat.not_le.mpr first
  have := Nat.not_le.mpr second
  have := Nat.not_le.mpr third
  simp [Part.ofMatch, edgeActions, Part.ofGroups, Part.nonempty, *]

/-- An edge is matched as three pieces, one for each group, and these are its parts. -/
theorem exists_pieces_of_edge {pattern : Pattern} (edge : pattern.program = edgeProgram)
    (grouped : pattern.groupCount = 3) {before after : List Char} {found : Match}
    (matched : pattern.matchHere? before after = some found) :
    ∃ first middle last back, after = first ++ (middle ++ (last ++ back)) ∧
      firstDash.Takes first ∧ inParentheses.Takes middle ∧ lastDash.Takes last ∧
      byteLength first + byteLength middle + byteLength last = found.stop ∧
      Part.ofMatch (.byGroups edgeActions) found =
        [⟨0, byteLength first, .kind .operator⟩,
          ⟨byteLength first, byteLength first + byteLength middle, .delegate ⟨.this, none⟩⟩,
          ⟨byteLength first + byteLength middle, found.stop, .kind .operator⟩] := by
  obtain ⟨-, front, back, later, rfl, size, way, groups⟩ :=
    Pattern.exists_matches_of_matchHere? matched
  rw [edge, edgeProgram, Program.matches_seq_iff] at way
  obtain ⟨first, rest, between, rfl, head, way⟩ := way
  obtain ⟨middle, last, latest, rfl, inner, tail⟩ := Program.matches_seq_iff.mp way
  obtain ⟨⟨_, dash⟩, firstClosed⟩ := head.group (by decide)
  obtain ⟨⟨_, inside⟩, middleClosed⟩ := inner.group (by decide)
  obtain ⟨⟨_, otherDash⟩, lastClosed⟩ := tail.group (by decide)
  have stop : byteLength first + byteLength middle + byteLength last = found.stop := by
    rw [← size, byteLength_append, byteLength_append, Nat.add_assoc]
  have near := byteLength_pos (dash.ne_nil_of_mustConsume (by decide))
  have far := byteLength_pos (inside.ne_nil_of_mustConsume (by decide))
  have rest := byteLength_pos (otherDash.ne_nil_of_mustConsume (by decide))
  refine ⟨first, middle, last, back, by simp, ⟨_, _, _, _, _, dash⟩, ⟨_, _, _, _, _, inside⟩,
    ⟨_, _, _, _, _, otherDash⟩, stop, ofMatch_edgeActions near (by omega) (by omega) ?_⟩
  rw [groups, grouped]
  simp [List.range_succ, Groups.get?, Groups.latest?, firstClosed, middleClosed, lastClosed, stop]

/-- What is handed on of an edge begins and ends with a parenthesis. -/
theorem exists_parts_of_edge {pattern : Pattern} (edge : pattern.program = edgeProgram)
    (grouped : pattern.groupCount = 3) {before after : List Char} {found : Match}
    (matched : pattern.matchHere? before after = some found) :
    ∃ first middle last back, after = first ++ (middle ++ (last ++ back)) ∧
      middle.head? = some '(' ∧ middle.getLast? = some ')' ∧
      Part.ofMatch (.byGroups edgeActions) found =
        [⟨0, byteLength first, .kind .operator⟩,
          ⟨byteLength first, byteLength first + byteLength middle, .delegate ⟨.this, none⟩⟩,
          ⟨byteLength first + byteLength middle, found.stop, .kind .operator⟩] := by
  obtain ⟨first, middle, last, back, split, -, ⟨_, _, _, _, _, inside⟩, -, -, parts⟩ :=
    exists_pieces_of_edge edge grouped matched
  have filled := inside.ne_nil_of_mustConsume (by decide)
  refine ⟨first, middle, last, back, split, ?_, ?_, parts⟩
  · have opens : inParentheses.startsIn (· = '(') := by decide
    have first := List.head?_eq_some_head filled
    rw [first, of_decide_eq_true (inside.head?_of_startsIn opens _ first)]
  · have closes : inParentheses.endsIn (· = ')') := by decide
    have last := List.getLast?_eq_some_getLast filled
    rw [last, of_decide_eq_true (inside.getLast?_of_endsIn closes _ last)]

/-- A rule of the table never stops inside a word, or it makes a token of a kind that may. -/
theorem Treats.spares_or_cuts {pattern : Pattern} {action : Action}
    (treats : Treats pattern action) :
    pattern.SparesWords ∨ ∃ kind ∈ cutKinds, action = .token kind := by
  cases treats with
  | spares _ spares => exact .inl spares
  | cuts among => exact .inr ⟨_, among, rfl⟩
  | keyword keyword => exact .inl (Pattern.sparesWords_of_endsAt keyword.edge)
  | edge edge _ =>
    refine .inl (Pattern.sparesWords_of_endsIn ?_ ?_)
    · rw [edge]
      decide
    · rw [edge]
      decide

/-! ### Steps -/

section Steps

variable {engine inner : Engine}

/-- The place that an engine has come to is inside a word. -/
def IsInside (engine : Engine) : Prop := InsideWord engine.before.head? engine.after.head?

/-- A step that comes to a place inside a word was there already, or it puts out a token of a kind
that may end there. -/
theorem exists_cut_of_step (known : table = .ok engine.table)
    (nonempty : engine.after ≠ []) (inside : IsInside (engine.step []).2) :
    (IsInside engine ∧ (engine.step []).2.cursor = engine.cursor) ∨
      ∃ token, .token token ∈ (engine.step []).1 ∧ token.kind ∈ cutKinds ∧
        token.stop = (engine.step []).2.cursor := by
  cases fires : engine.firing? with
  | some firing =>
    obtain ⟨rule, found⟩ := firing
    obtain ⟨member, matched, -⟩ := Engine.firing?_eq_some fires
    obtain ⟨front, passes, -⟩ := Engine.step_passes [] engine nonempty
    have cursor := Engine.cursor_step_of_fires [] fires
    have size : byteLength front = found.stop := by
      have := passes.cursor
      omega
    -- The place after the step is where the match ends.
    rw [IsInside, passes.before, ← lastOf_head?] at inside
    rw [passes.after] at matched
    have treats := treats_of_mem_rules known member
    rcases treats.spares_or_cuts with spares | ⟨kind, among, action⟩
    · exact absurd inside (spares _ _ _ _ matched size)
    · by_cases empty : found.stop = 0
      · -- The rule matches nothing, so the engine stays where it is.
        have none : front = [] := byteLength_eq_zero_iff.mp (size.trans empty)
        subst none
        rw [IsInside, passes.after]
        exact .inl ⟨inside, by rw [cursor, empty, Nat.add_zero]⟩
      · have put : Item.token ⟨kind, engine.cursor, engine.cursor + found.stop⟩ ∈
            (engine.step []).1 := by
          simp [Engine.step, fires, Engine.fire, action, Part.ofMatch, Part.nonempty,
            Nat.pos_of_ne_zero empty, Engine.itemOf, Engine.tokenOver]
        exact .inr ⟨_, put, among, cursor.symm⟩
  | none =>
    obtain ⟨char, rest, split⟩ := List.exists_cons_of_ne_nil nonempty
    obtain ⟨items, cursor, before, -⟩ := Engine.step_of_silent fires split
    -- The end of a line is no character of a word, so the character is given up as an error.
    have other : char ≠ '\n' := by
      rintro rfl
      rw [IsInside, before] at inside
      have outside : ¬WordScope.unicode.at (some '\n') := by decide
      exact outside inside.1
    have among : TokenKind.error ∈ cutKinds := by decide
    refine .inr ⟨⟨.error, engine.cursor, engine.cursor + char.utf8Size⟩, ?_, among, cursor.symm⟩
    rw [items]
    simp [other]

/-- The table hands on only what stands in parentheses. -/
theorem nested_in_parentheses (known : table = .ok engine.table)
    {offset : Nat} (handed : .nested offset inner ∈ (engine.step []).1) :
    inner.text.head? = some '(' ∧ inner.text.getLast? = some ')' := by
  obtain ⟨rule, found, part, delegate, fires, among, named, -, -, rfl⟩ :=
    Engine.exists_delegate_of_nested handed
  obtain ⟨member, matched, -⟩ := Engine.firing?_eq_some fires
  have treats := treats_of_mem_rules known member
  generalize rule.action = action at treats among
  cases treats with
  | spares | cuts | keyword =>
    obtain ⟨-, rfl⟩ := Part.mem_nonempty_iff.mp among
    cases named
  | edge edge grouped =>
    obtain ⟨first, middle, last, back, split, opens, closes, parts⟩ :=
      exists_parts_of_edge edge grouped matched
    have here : part = ⟨byteLength first, byteLength first + byteLength middle,
        .delegate ⟨.this, none⟩⟩ := by
      rw [parts] at among
      simp only [List.mem_cons, List.not_mem_nil, or_false] at among
      rcases among with rfl | rfl | rfl
      · cases named
      · rfl
      · cases named
    subst here
    have text : (engine.delegated [] delegate (byteLength first)
        (byteLength first + byteLength middle)).text = middle := by
      simp [Engine.delegated, Engine.start, Engine.text, Engine.textOver_eq split]
    rw [text]
    exact ⟨opens, closes⟩

/-- A keyword is put out over the whole match of a pattern for keywords. -/
theorem exists_keyword_of_put (known : table = .ok engine.table) {token : Token}
    (put : .token token ∈ (engine.step []).1) (keyword : token.kind = .keyword) :
    ∃ pattern found, KeywordPattern pattern ∧
      pattern.matchHere? engine.before engine.after = some found ∧
      token = ⟨.keyword, engine.cursor, engine.cursor + found.stop⟩ := by
  rcases Engine.mem_items_step [] put with ⟨rule, found, part, fires, among, same⟩ | given
  · obtain ⟨member, matched, -⟩ := Engine.firing?_eq_some fires
    have treats := treats_of_mem_rules known member
    obtain ⟨-, said⟩ := Part.proper_of_mem_ofMatch (Pattern.matchHere?_within matched) among
    have named : part.action = .kind .keyword := by
      rcases Engine.itemOf_eq_token [] same.symm with named | text
      · rwa [keyword] at named
      · rw [keyword] at text
        cases text
    have acts : .kind .keyword ∈ rule.action.partActions := by
      rw [named] at said
      exact said.resolve_left (by simp)
    generalize rule.action = action at treats among acts
    cases treats with
    | spares other _ => exact absurd (by simpa [Action.partActions, eq_comm] using acts) other
    | cuts kinds =>
      -- Keywords are not among the kinds that may cut a word.
      cases List.mem_singleton.mp acts
      exact absurd kinds (by decide)
    | keyword pattern =>
      obtain ⟨-, rfl⟩ := Part.mem_nonempty_iff.mp among
      cases same
      exact ⟨rule.pattern, found, pattern, matched, rfl⟩
    | edge => simp [Action.partActions, edgeActions] at acts
  · -- A character that is given up makes an error or a blank.
    obtain ⟨-, char, rest, -, same⟩ := given
    cases same
    dsimp only at keyword
    split at keyword <;> cases keyword

end Steps

/-! ### Runs -/

section Runs

variable {built : RuleTable} {text : List Char} {state : String} {base : Nat} {engine : Engine}

/-- Whatever runs in the course of a tokenization runs the same table. -/
theorem table_of_arises (known : table = .ok built)
    (arises : Engine.Arises [] (.start built text state 0) base engine) :
    table = .ok engine.table := by
  have same : engine.table = built := RuleTable.eq_of_handsTo_nil arises.reaches.handsTo
  rw [same, known]

/-- An engine runs over the whole text or over a text in parentheses. -/
theorem whole_or_in_parentheses (known : table = .ok built)
    (arises : Engine.Arises [] (.start built text state 0) base engine) :
    engine.text = text ∨ engine.text.head? = some '(' ∧ engine.text.getLast? = some ')' := by
  induction arises with
  | origin => exact .inl rfl
  | @step base engine _ nonempty ih =>
    obtain ⟨front, passes, -⟩ := Engine.step_passes [] engine nonempty
    rwa [passes.text_eq]
  | nested arises _ handed _ =>
    exact .inr (nested_in_parentheses (table_of_arises known arises) handed)

/-- Wherever an engine has come to a place inside a word, a token of a kind that may end there
does. -/
theorem exists_cut_of_arises (known : table = .ok built)
    (arises : Engine.Arises [] (.start built text state 0) base engine) (inside : IsInside engine) :
    ∃ token ∈ (Engine.run [] (.start built text state 0)).1, token.kind ∈ cutKinds ∧
      token.stop = base + engine.cursor := by
  induction arises with
  | origin => cases inside.1
  | @step base engine arises nonempty ih =>
    rcases exists_cut_of_step (table_of_arises known arises) nonempty inside with
      ⟨already, still⟩ | ⟨token, put, kind, stop⟩
    · rw [still]
      exact ih already
    · refine ⟨token.shift base, Engine.mem_run_iff.mpr
        ⟨base, engine, token, arises, nonempty, put, rfl⟩, kind, ?_⟩
      rw [← stop]
      exact Nat.add_comm _ _
  | @nested base offset engine inner _ nonempty handed _ =>
    -- A nested engine has passed nothing yet, so nothing stands before its place.
    obtain ⟨_, _, _, -, -, -, rfl⟩ := Engine.exists_start_of_nested nonempty handed
    cases inside.1

/-- A piece of text that begins and ends with characters of words has the same neighbours in the
text of an engine as in the whole text. -/
theorem exists_neighbours (known : table = .ok built)
    (arises : Engine.Arises [] (.start built text state 0) base engine) {word back : List Char}
    (split : engine.after = word ++ back) (first : WordScope.unicode.at word.head?)
    (last : WordScope.unicode.at word.getLast?) :
    ∃ near far, text = near ++ (word ++ far) ∧ byteLength near = base + engine.cursor ∧
      near.getLast? = engine.before.head? ∧ far.head? = back.head? := by
  have aligned := Engine.aligned_start built text state 0
  have cursor : engine.cursor = byteLength engine.before.reverse := arises.reaches.aligned aligned
  obtain ⟨outer, rest, whole, size⟩ := arises.exists_within aligned
  have nonempty : word ≠ [] := by
    rintro rfl
    cases first
  have inner : engine.text = engine.before.reverse ++ (word ++ back) := by
    rw [Engine.text, split]
  have text_eq : text = outer ++ (engine.text ++ rest) := whole
  -- A character that is next to the piece in the whole text but not in the text of the engine is
  -- next to the text of the engine, which begins and ends with a parenthesis.
  have bounded : (outer = [] ∨ engine.before ≠ []) ∧ (rest = [] ∨ back ≠ []) := by
    rcases whole_or_in_parentheses known arises with all | ⟨opens, closes⟩
    · have lengths := congrArg List.length text_eq
      rw [all, List.length_append, List.length_append] at lengths
      exact ⟨.inl (List.eq_nil_of_length_eq_zero (by omega)),
        .inl (List.eq_nil_of_length_eq_zero (by omega))⟩
    · refine ⟨.inr ?_, .inr ?_⟩
      · intro none
        have outside : ¬WordScope.unicode.at (some '(') := by decide
        rw [inner, none, List.reverse_nil, List.nil_append, List.head?_append_of_ne_nil _ nonempty]
          at opens
        exact outside (opens ▸ first)
      · rintro rfl
        have outside : ¬WordScope.unicode.at (some ')') := by decide
        rw [inner, List.append_nil, List.getLast?_append_of_ne_nil _ nonempty] at closes
        exact outside (closes ▸ last)
  obtain ⟨before, after⟩ := bounded
  refine ⟨outer ++ engine.before.reverse, back ++ rest, ?_, ?_, ?_, ?_⟩
  · rw [text_eq, inner]
    simp
  · rw [byteLength_append, size, cursor]
  · rcases before with rfl | filled
    · simp
    · rw [List.getLast?_append_of_ne_nil _ (by simpa using filled), List.getLast?_reverse]
  · rcases after with rfl | filled
    · simp
    · rw [List.head?_append_of_ne_nil _ filled]

end Runs

/-- **Keywords.** The table for GSQL is built, and whatever text it runs over, from whatever state:
no dot stands right before a keyword and no character of a word right after it. If a character of a
word stands right before it, then a token of a kind that may end inside a word ends there, so a
keyword is a whole word unless the beginning of the word has been cut off. -/
theorem keyword_whole_or_cut (text : List Char) (state : String) :
    ∃ built, table = .ok built ∧
      let tokens := (built.tokenizeFrom [] text state).drain.1
      ∀ token ∈ tokens, token.kind = .keyword →
        ∃ near word far, text = near ++ (word ++ far) ∧ token.start = byteLength near ∧
          token.stop = byteLength (near ++ word) ∧ word ≠ [] ∧
          near.getLast? ≠ some '.' ∧ ¬WordScope.unicode.at far.head? ∧
          (WordScope.unicode.at near.getLast? →
            ∃ earlier ∈ tokens, earlier.kind ∈ cutKinds ∧ earlier.stop = token.start) := by
  obtain ⟨built, known⟩ := exists_table
  refine ⟨built, known, ?_⟩
  intro tokens token member keyword
  have whole : tokens = (Engine.run [] (.start built text state 0)).1 :=
    (Tokens.drain_start [] built text state).1
  rw [whole, Engine.mem_run_iff] at member
  obtain ⟨base, engine, raw, arises, nonempty, put, rfl⟩ := member
  obtain ⟨pattern, found, isKeyword, matched, rfl⟩ :=
    exists_keyword_of_put (table_of_arises known arises) put keyword
  obtain ⟨word, back, split, size⟩ := (Pattern.matchHere?_within matched).stops
  rw [split] at matched
  obtain ⟨dotless, first, last, edge⟩ := isKeyword.borders matched size
  obtain ⟨near, far, text_eq, place, before, after⟩ :=
    exists_neighbours known arises split first last
  have start : engine.cursor + base = byteLength near := by omega
  refine ⟨near, word, far, text_eq, start, ?_, ?_, before ▸ dotless, after ▸ edge, ?_⟩
  · rw [byteLength_append, size, ← start]
    exact Nat.add_right_comm _ _ _
  · rintro rfl
    cases first
  · intro behind
    -- The keyword begins with a character of a word, so its beginning is inside a word.
    have next : engine.after.head? = word.head? := by
      rw [split, List.head?_append_of_ne_nil]
      rintro rfl
      cases first
    have inside : IsInside engine := ⟨before ▸ behind, next ▸ first⟩
    obtain ⟨earlier, among, kind, stop⟩ := exists_cut_of_arises known arises inside
    exact ⟨earlier, whole ▸ among, kind, stop.trans (Nat.add_comm _ _)⟩

/-! ### A word that is cut -/

/-- A pattern that is compiled passes whatever check it has been found to pass. -/
theorem of_compiled {source : String} {pattern : Pattern} (check : Pattern → Bool)
    (compiled : Pattern.compile options source = .ok pattern)
    (found : ∃ pattern, Pattern.compile options source = .ok pattern ∧ check pattern) :
    check pattern := by
  obtain ⟨other, again, checked⟩ := found
  cases compiled.symm.trans again
  exact checked

/-- What a pattern matches in `order_by`: at the beginning, before the underscore, and after it. -/
def matchesInOrderBy (first second third : Option Match) (pattern : Pattern) : Bool :=
  pattern.matchHere? [] ['o', 'r', 'd', 'e', 'r', '_', 'b', 'y'] = first &&
    pattern.matchHere? ['r', 'e', 'd', 'r', 'o'] ['_', 'b', 'y'] = second &&
    pattern.matchHere? ['_', 'r', 'e', 'd', 'r', 'o'] ['b', 'y'] = third

/-- An engine that runs from the root and has come to a place. -/
def enginePast (built : RuleTable) (before after : List Char) (cursor : Nat) : Engine :=
  { Engine.start built after "root" 0 with before, cursor }

/-- The first rule of the root that matches puts its token out, and the engine goes on behind it. -/
theorem run_enginePast {built : RuleTable} {later : List Rule} {pattern : Pattern}
    {kind : TokenKind} {before : List Char} {cursor : Nat} {found : Match} (front back : List Char)
    (earlier : List Rule)
    (root : built.rules "root" = earlier ++ ⟨pattern, .token kind, .stay⟩ :: later)
    (silent : ∀ other ∈ earlier, other.pattern.matchHere? before (front ++ back) = none)
    (matched : pattern.matchHere? before (front ++ back) = some found)
    (size : byteLength front = found.stop) (moves : 0 < found.stop) :
    ((enginePast built before (front ++ back) cursor).run []).1 =
      ⟨kind, cursor, cursor + found.stop⟩ ::
        ((enginePast built (front.reverse ++ before) back (cursor + found.stop)).run []).1 := by
  have fires : (enginePast built before (front ++ back) cursor).firing? = _ :=
    Engine.firing?_of_rules root silent matched moves
  exact Engine.run_of_staying [] fires rfl size moves

set_option maxRecDepth 100000

/-- What the first rules of the root match in `order_by`. -/
theorem exists_rules_order_by {built : RuleTable} (known : table = .ok built) :
    ∃ line block keyword clause accumulator edge arrow mark later,
      built.rules "root" =
        ⟨line, .token .commentSingle, .stay⟩ :: ⟨block, .token .commentMultiline, .stay⟩ ::
        ⟨keyword, .token .keyword, .stay⟩ :: ⟨clause, .token .nameBuiltin, .stay⟩ ::
        ⟨accumulator, .token .nameBuiltin, .stay⟩ :: ⟨edge, .byGroups edgeActions, .stay⟩ ::
        ⟨arrow, .token .operator, .stay⟩ :: ⟨mark, .token .punctuation, .stay⟩ :: later ∧
      (∀ pattern ∈ [line, block, accumulator, edge, arrow],
        matchesInOrderBy none none none pattern) ∧
      matchesInOrderBy none none (some ⟨2, []⟩) keyword ∧
      matchesInOrderBy (some ⟨5, []⟩) none none clause ∧
      matchesInOrderBy none (some ⟨1, []⟩) none mark := by
  have compiles := compiles_root known
  generalize built.rules "root" = rules at compiles
  -- Each rule at the front has the action of its entry and a pattern that is compiled from it.
  obtain _ | ⟨⟨line⟩, compiles⟩ := compiles
  obtain _ | ⟨⟨block⟩, compiles⟩ := compiles
  obtain _ | ⟨⟨keyword⟩, compiles⟩ := compiles
  obtain _ | ⟨⟨clause⟩, compiles⟩ := compiles
  obtain _ | ⟨⟨accumulator⟩, compiles⟩ := compiles
  obtain _ | ⟨⟨edge⟩, compiles⟩ := compiles
  obtain _ | ⟨⟨arrow⟩, compiles⟩ := compiles
  obtain _ | ⟨⟨mark⟩, _⟩ := compiles
  have body : (Pattern.readExpr options keywordBody).toOption.any fun expr =>
      matchesInOrderBy none none (some ⟨2, []⟩)
        (.ofExpr keywordSource (some noDotBehind) expr) := by
    simp only [keywordBody, Vocabulary.sortedWords, keywords, List.map_cons, List.map_nil,
      String.reduceToList]
    decide +kernel
  obtain ⟨_, again, -, word⟩ := exists_compile_keywords body
  refine ⟨_, _, _, _, _, _, _, _, _, rfl, ?_, of_compiled _ keyword ⟨_, again, word⟩,
    of_compiled _ clause (Pattern.exists_compile (Vocabulary.toList_pattern _) rfl
      (by decide +kernel)),
    of_compiled _ mark (Pattern.exists_compile rfl rfl (by decide +kernel))⟩
  intro pattern member
  simp only [List.mem_cons, List.not_mem_nil, or_false] at member
  rcases member with rfl | rfl | rfl | rfl | rfl
  · exact of_compiled _ line (Pattern.exists_compile rfl rfl (by decide +kernel))
  · exact of_compiled _ block (Pattern.exists_compile rfl rfl (by decide +kernel))
  · exact of_compiled _ accumulator
      (Pattern.exists_compile (Vocabulary.toList_pattern _) rfl (by decide +kernel))
  · exact of_compiled _ edge (Pattern.exists_compile rfl rfl (by decide +kernel))
  · exact of_compiled _ arrow (Pattern.exists_compile rfl rfl (by decide +kernel))

theorem tokens_order_by {built : RuleTable} (known : table = .ok built) :
    (built.tokenizeFrom [] "order_by".toList "root").drain.1 =
      [⟨.nameBuiltin, 0, 5⟩, ⟨.punctuation, 5, 6⟩, ⟨.keyword, 6, 8⟩] := by
  obtain ⟨line, block, keyword, clause, accumulator, edge, arrow, mark, later, root, silent, word,
    name, score⟩ := exists_rules_order_by known
  simp only [matchesInOrderBy, Bool.and_eq_true, decide_eq_true_eq,
    and_assoc] at silent word name score
  have first : ((enginePast built [] "order_by".toList 0).run []).1 = ⟨.nameBuiltin, 0, 5⟩ ::
      ((enginePast built "redro".toList "_by".toList 5).run []).1 := by
    refine run_enginePast ['o', 'r', 'd', 'e', 'r'] ['_', 'b', 'y'] [_, _, _] root ?_ name.1
      (by decide) (by decide)
    simp [silent, word]
  have second : ((enginePast built "redro".toList "_by".toList 5).run []).1 =
      ⟨.punctuation, 5, 6⟩ :: ((enginePast built "_redro".toList "by".toList 6).run []).1 := by
    refine run_enginePast ['_'] ['b', 'y'] [_, _, _, _, _, _, _] root ?_ score.2.1
      (by decide) (by decide)
    simp [silent, word, name]
  have third : ((enginePast built "_redro".toList "by".toList 6).run []).1 =
      ⟨.keyword, 6, 8⟩ :: ((enginePast built "yb_redro".toList [] 8).run []).1 := by
    refine run_enginePast ['b', 'y'] [] [_, _] root ?_ word.2.2 (by decide) (by decide)
    simp [silent]
  have rest : ((enginePast built "yb_redro".toList [] 8).run []).1 = [] := by
    rw [Engine.run_of_drained rfl]
  rw [third, rest] at second
  rw [second] at first
  exact (Tokens.drain_start [] built "order_by".toList "root").1.trans first

/-- The keyword in `order_by` stands right behind a token that has cut the word. -/
theorem keyword_whole_or_cut_of_order_by :
    ∃ built, table = .ok built ∧
      ∃ earlier ∈ (built.tokenizeFrom [] "order_by".toList "root").drain.1,
        earlier.kind ∈ cutKinds ∧ earlier.stop = 6 := by
  obtain ⟨built, known, all⟩ := keyword_whole_or_cut "order_by".toList "root"
  refine ⟨built, known, ?_⟩
  have member : (⟨.keyword, 6, 8⟩ : Token) ∈
      (built.tokenizeFrom [] "order_by".toList "root").drain.1 := by
    rw [tokens_order_by known]
    simp
  obtain ⟨near, word, far, split, start, -, -, -, -, cut⟩ := all _ member rfl
  have same : "order_".toList = near := by
    have size : byteLength "order_".toList = byteLength near := (by decide : _ = 6).trans start
    exact (append_inj_of_byteLength_eq (split ▸ rfl :
      "order_".toList ++ "by".toList = near ++ (word ++ far)) size).1
  subst same
  exact cut (by decide)

/-- In `order_by` the keyword is the end of a word, whose beginning is the name of a clause. -/
theorem exists_keyword_inside_word :
    ∃ built, table = .ok built ∧
      (⟨.keyword, 6, 8⟩ : Token) ∈ (built.tokenizeFrom [] "order_by".toList "root").drain.1 ∧
      "order_by".toList = "order_".toList ++ "by".toList ∧ byteLength "order_".toList = 6 ∧
      WordScope.unicode.at "order_".toList.getLast? := by
  obtain ⟨built, known⟩ := exists_table
  refine ⟨built, known, ?_, by decide, by decide, by decide⟩
  rw [tokens_order_by known]
  simp

end Gsql

end RuleLexer
