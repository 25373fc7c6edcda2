import RuleLexer.Proofs.Engine.Exchange
import RuleLexer.Proofs.Tokens.Coverage

/-!
# The limit on nested tokenizations

A part of the text that is handed on too deeply is left as one token of text. With a higher limit it
is tokenized after all, and the tokens that come of it stand in the place of the text: nothing else
changes, since no engine looks at what a nested one puts out.

A higher limit is given to one table only. A nested engine runs either this table again, with the
higher limit, or a table of the library, which keeps its own, so the limits of two engines that
correspond are compared anew at every delegate.

## Main definitions

`Coarsens` relates two lists of tokens: each token of the first is the next token of the second or
stands for the next ones. `Item.Coarsens` says the same of what one step puts out, before nested
engines are run.

## Main result

`tokenizeFrom_coarsens`: the tokens of a run with a lower limit are those of a run with a higher one,
apart from tokens of text that the higher limit takes apart.
-/
namespace RuleLexer

open Text

/-! ### Coarser tokens -/

/-- A token of text stands for tokens that together take up what it takes up. -/
def Token.StandsFor (token : Token) (pieces : List Token) : Prop :=
  token.kind = .text ∧ ∃ chars, chars ≠ [] ∧ Spells token.start (pieces.map span) chars ∧
    token.stop = token.start + byteLength chars

theorem Token.StandsFor.shift {token : Token} {pieces : List Token}
    (stands : token.StandsFor pieces) (offset : Nat) :
    (token.shift offset).StandsFor (pieces.map (Token.shift offset)) := by
  obtain ⟨kind, chars, nonempty, spelled, stop⟩ := stands
  refine ⟨kind, chars, nonempty, ?_, ?_⟩
  · rw [map_span_shift]
    exact spelled.shift offset
  · simp only [Token.shift]
    omega

/-- Among tokens that spell a text, those that a token stands for tile the part of the text that the
token takes up. -/
theorem Token.StandsFor.tiles {token : Token} {text : List Char} {before pieces after : List Token}
    (stands : token.StandsFor pieces)
    (spelled : Spells 0 ((before ++ pieces ++ after).map span) text) :
    Tiles text token.start (pieces.map span) token.stop := by
  obtain ⟨-, chars, nonempty, taken, stop⟩ := stands
  rw [List.append_assoc, List.map_append, List.map_append] at spelled
  obtain ⟨front, rest, rfl, -, further⟩ := spelled.drop
  obtain ⟨piece, back, rfl, here, -⟩ := further.drop
  -- The pieces are the same stretches on both sides, so they take up the same place.
  obtain ⟨start, size⟩ := taken.place_eq here nonempty
  rw [stop, size, start]
  exact here.tiles rfl (by omega)

/-- Each token of the first list is the next token of the second or stands for the next ones. -/
inductive Coarsens : List Token → List Token → Prop
  | nil : Coarsens [] []
  | keep {coarse fine : List Token} (token : Token) (tail : Coarsens coarse fine) :
      Coarsens (token :: coarse) (token :: fine)
  | resolve {token : Token} {coarse pieces fine : List Token} (stands : token.StandsFor pieces)
      (tail : Coarsens coarse fine) : Coarsens (token :: coarse) (pieces ++ fine)

namespace Coarsens

variable {coarse fine : List Token}

theorem append (first : Coarsens coarse fine) {more further : List Token}
    (second : Coarsens more further) : Coarsens (coarse ++ more) (fine ++ further) := by
  induction first with
  | nil => exact second
  | keep token _ ih => exact .keep token ih
  | resolve stands _ ih =>
    rw [List.append_assoc]
    exact .resolve stands ih

theorem shift (coarsens : Coarsens coarse fine) (offset : Nat) :
    Coarsens (coarse.map (Token.shift offset)) (fine.map (Token.shift offset)) := by
  induction coarsens with
  | nil => exact .nil
  | keep token _ ih => exact .keep _ ih
  | resolve stands _ ih =>
    rw [List.map_append]
    exact .resolve (stands.shift offset) ih

theorem mem_or_standsFor (coarsens : Coarsens coarse fine) {token : Token}
    (member : token ∈ coarse) :
    token ∈ fine ∨ ∃ before pieces after, fine = before ++ pieces ++ after ∧
      token.StandsFor pieces := by
  -- What is found further on is found behind the tokens that come before it.
  have later {tail front : List Token}
      (found : token ∈ tail ∨ ∃ before pieces after, tail = before ++ pieces ++ after ∧
        token.StandsFor pieces) :
      token ∈ front ++ tail ∨ ∃ before pieces after, front ++ tail = before ++ pieces ++ after ∧
        token.StandsFor pieces := by
    rcases found with among | ⟨before, pieces, after, rfl, stands⟩
    · exact .inl (List.mem_append_right _ among)
    · exact .inr ⟨front ++ before, pieces, after, by simp, stands⟩
  induction coarsens with
  | nil => cases member
  | @keep _ fine first _ ih =>
    rcases List.mem_cons.mp member with rfl | member
    · exact .inl List.mem_cons_self
    · exact @later _ [first] (ih member)
  | @resolve first _ pieces fine stands _ ih =>
    rcases List.mem_cons.mp member with rfl | member
    · exact .inr ⟨[], pieces, fine, rfl, stands⟩
    · exact later (ih member)

end Coarsens

/-! ### Higher limits -/

/-- The same table with another limit on how deeply tokenizations are nested. -/
def RuleTable.withMaxDelegateDepth (limit : Nat) (table : RuleTable) : RuleTable :=
  table.withRunOptions { table.options.run with maxDelegateDepth := limit }

namespace Engine

/-- The same engine with another limit for its table. -/
def withMaxDelegateDepth (limit : Nat) (engine : Engine) : Engine :=
  { engine with table := engine.table.withMaxDelegateDepth limit }

variable {engine : Engine}

theorem withMaxDelegateDepth_self :
    engine.withMaxDelegateDepth engine.table.options.run.maxDelegateDepth = engine := rfl

theorem start_withMaxDelegateDepth (table : RuleTable) (text : List Char) (state : String)
    (depth limit : Nat) : (start table text state depth).withMaxDelegateDepth limit =
      start (table.withMaxDelegateDepth limit) text state depth := rfl

@[simp] theorem after_withMaxDelegateDepth (limit : Nat) :
    (engine.withMaxDelegateDepth limit).after = engine.after := rfl

@[simp] theorem firing?_withMaxDelegateDepth (limit : Nat) :
    (engine.withMaxDelegateDepth limit).firing? = engine.firing? := rfl

theorem recover_withMaxDelegateDepth (limit : Nat) :
    (engine.withMaxDelegateDepth limit).recover =
      (engine.recover.1, engine.recover.2.withMaxDelegateDepth limit) := by
  have recovered := @recover_withTable engine (engine.table.withMaxDelegateDepth limit) rfl
  rw [withMaxDelegateDepth, withMaxDelegateDepth, table_recover]
  exact recovered

/-- What a step does to an engine does not depend on the limit. -/
theorem step_withMaxDelegateDepth (library : Library) (limit : Nat) :
    ((engine.withMaxDelegateDepth limit).step library).2 =
      (engine.step library).2.withMaxDelegateDepth limit := by
  have suits : engine.Suits (engine.table.withMaxDelegateDepth limit) := ⟨rfl, fun _ _ _ => rfl⟩
  have stepped := step_withTable library suits rfl
  rw [withMaxDelegateDepth, withMaxDelegateDepth, table_step]
  exact stepped

/-- A delegate of an engine with a higher limit runs the same table with a limit that is as high. -/
theorem delegated_withMaxDelegateDepth (library : Library) {limit : Nat}
    (le : engine.table.options.run.maxDelegateDepth ≤ limit) (delegate : Delegate)
    (start stop : Nat) :
    let inner := engine.delegated library delegate start stop
    ∃ higher, inner.table.options.run.maxDelegateDepth ≤ higher ∧
      (engine.withMaxDelegateDepth limit).delegated library delegate start stop =
        inner.withMaxDelegateDepth higher := by
  obtain ⟨target, state⟩ := delegate
  cases target with
  | this => exact ⟨limit, le, rfl⟩
  | entry position =>
    simp only [delegated, DelegateTarget.table?]
    cases library[position]? with
    | none => exact ⟨limit, le, rfl⟩
    -- A table of the library is the same for both engines, with the limit that it has.
    | some table => exact ⟨table.options.run.maxDelegateDepth, le_rfl, rfl⟩

end Engine

/-! ### Items -/

/-- An item with a lower limit and the item in its place with a higher one: the same token, the same
nested engine with a limit that is as high, or a nested engine over what has been left as text. -/
inductive Item.Coarsens : Item → Item → Prop
  | token (token : Token) : Coarsens (.token token) (.token token)
  | nested (offset : Nat) (inner : Engine) {limit : Nat}
      (le : inner.table.options.run.maxDelegateDepth ≤ limit) :
      Coarsens (.nested offset inner) (.nested offset (inner.withMaxDelegateDepth limit))
  | resolve (offset : Nat) (inner : Engine) (begins : inner.cursor = 0)
      (nonempty : inner.after ≠ []) :
      Coarsens (.token ⟨.text, offset, offset + byteLength inner.after⟩) (.nested offset inner)

namespace Engine

variable {library : Library} {engine : Engine} {limit : Nat}

theorem itemOf_withMaxDelegateDepth (library : Library) (engine : Engine) (limit : Nat)
    {part : Part} {delegate : Delegate} (named : part.action = .delegate delegate) :
    (engine.withMaxDelegateDepth limit).itemOf library part =
      if engine.depth < limit then
        .nested (engine.cursor + part.start)
          ((engine.withMaxDelegateDepth limit).delegated library delegate part.start part.stop)
      else engine.tokenOver .text part.start part.stop := by
  unfold itemOf
  rw [named]
  rfl

/-- In the place of a part that is left as text there can be a nested run over this part. -/
theorem tokenOver_coarsens {part : Part} (proper : part.Proper engine.after) (delegate : Delegate)
    (higher : Nat) :
    (engine.tokenOver .text part.start part.stop).Coarsens (.nested (engine.cursor + part.start)
      ((engine.delegated library delegate part.start part.stop).withMaxDelegateDepth higher)) := by
  obtain ⟨piece, sliced, nonempty⟩ := proper.exists_slice
  obtain ⟨_, _, -, -, stop⟩ := slice?_eq_some_iff.mp sliced
  have handed : (engine.delegated library delegate part.start part.stop).after = piece := by
    simp [delegated, Engine.start, textOver, sliced]
  have item := Item.Coarsens.resolve (engine.cursor + part.start)
    ((engine.delegated library delegate part.start part.stop).withMaxDelegateDepth higher)
    rfl (by simpa [handed] using nonempty)
  rwa [after_withMaxDelegateDepth, handed, Nat.add_assoc, stop] at item

theorem itemOf_coarsens (le : engine.table.options.run.maxDelegateDepth ≤ limit) {part : Part}
    (proper : part.Proper engine.after) :
    (engine.itemOf library part).Coarsens
      ((engine.withMaxDelegateDepth limit).itemOf library part) := by
  cases named : part.action with
  | kind kind =>
    simp only [itemOf, named]
    exact .token _
  | skip =>
    simp only [itemOf, named]
    exact .token _
  | delegate delegate =>
    obtain ⟨higher, leHigher, same⟩ :=
      delegated_withMaxDelegateDepth library le delegate part.start part.stop
    have own :=
      itemOf_withMaxDelegateDepth library engine engine.table.options.run.maxDelegateDepth named
    rw [withMaxDelegateDepth_self] at own
    rw [own, itemOf_withMaxDelegateDepth library engine limit named, same]
    -- Both engines hand the part on, or only the one with the higher limit does, or none does.
    by_cases allowed : engine.depth < engine.table.options.run.maxDelegateDepth
    · rw [if_pos allowed, if_pos (by omega)]
      exact .nested _ _ leHigher
    · rw [if_neg allowed]
      split
      · exact tokenOver_coarsens proper delegate higher
      · exact .token _

theorem step_coarsens (library : Library)
    (le : engine.table.options.run.maxDelegateDepth ≤ limit) :
    List.Forall₂ Item.Coarsens (engine.step library).1
      ((engine.withMaxDelegateDepth limit).step library).1 := by
  simp only [step, firing?_withMaxDelegateDepth]
  cases fires : engine.firing? with
  | none =>
    -- What is put out for a character that is given up is a token, whatever the limit.
    rw [recover_withMaxDelegateDepth]
    dsimp only
    unfold recover
    split
    · exact .nil
    · split <;> exact .cons (.token _) .nil
  | some firing =>
    obtain ⟨rule, found⟩ := firing
    obtain ⟨-, matched, -⟩ := firing?_eq_some fires
    have proper {part : Part} (member : part ∈ Part.ofMatch rule.action found) :
        part.Proper engine.after :=
      (Part.proper_of_mem_ofMatch (Pattern.matchHere?_within matched) member).1
    simp only [fire]
    rw [List.forall₂_map_left_iff, List.forall₂_map_right_iff, List.forall₂_same]
    intro part member
    exact itemOf_coarsens le (proper member)

/-- The tokens of items are coarser if those of the nested engines among them are. -/
theorem tokens_coarsens {items finer : List Item} (coarsens : List.Forall₂ Item.Coarsens items finer)
    (nested : ∀ offset inner, .nested offset inner ∈ items → ∀ {limit},
      inner.table.options.run.maxDelegateDepth ≤ limit →
        Coarsens (inner.run library).1 ((inner.withMaxDelegateDepth limit).run library).1) :
    Coarsens (Item.tokens library items) (Item.tokens library finer) := by
  induction coarsens with
  | nil =>
    simp only [Item.tokens]
    exact .nil
  | @cons _ _ rest _ first _ ih =>
    have tail := ih fun offset inner member => nested offset inner (List.mem_cons_of_mem _ member)
    cases first with
    | token token =>
      simp only [Item.tokens]
      exact .keep token tail
    | nested offset inner le =>
      simp only [Item.tokens]
      exact ((nested offset inner List.mem_cons_self le).shift offset).append tail
    | resolve offset inner begins nonempty =>
      have spelled := (run_spells library inner).shift offset
      rw [begins, Nat.zero_add, ← Token.map_span_shift] at spelled
      simp only [Item.tokens]
      exact .resolve ⟨rfl, inner.after, nonempty, spelled, rfl⟩ tail

/-- With a higher limit the tokens of a run are taken apart further, and the run ends in the same
place. -/
theorem run_coarsens (library : Library) (engine : Engine)
    (le : engine.table.options.run.maxDelegateDepth ≤ limit) :
    Coarsens (engine.run library).1 ((engine.withMaxDelegateDepth limit).run library).1 ∧
      ((engine.withMaxDelegateDepth limit).run library).2 =
        (engine.run library).2.withMaxDelegateDepth limit := by
  -- The limit stays free in the induction, because a nested engine need not get the same one.
  induction engine using run_induction library generalizing limit with
  | drained engine drained =>
    rw [run_of_drained drained, run_of_drained (by simpa using drained)]
    exact ⟨.nil, rfl⟩
  | stepped engine nonempty ihRest ihNested =>
    -- The table stays the same along the steps, so the limit stays as high.
    obtain ⟨front, passes, -⟩ := step_passes library engine nonempty
    obtain ⟨later, final⟩ := ihRest (passes.table ▸ le)
    have nonemptyFine : (engine.withMaxDelegateDepth limit).after ≠ [] := nonempty
    rw [run_of_nonempty nonempty, run_of_nonempty nonemptyFine, step_withMaxDelegateDepth]
    refine ⟨.append (tokens_coarsens (step_coarsens library le) ?_) later, final⟩
    intro offset inner handed limit le
    exact (ihNested offset inner handed le).1

end Engine

/-- What the limit changes in a drained stream: its tokens are taken apart further, and its engine
keeps the limit. -/
theorem Tokens.drain_coarsens (library : Library) {table : RuleTable} {limit : Nat}
    (le : table.options.run.maxDelegateDepth ≤ limit) (text : List Char) (state : String) :
    let coarse := (table.tokenizeFrom library text state).drain
    let fine := ((table.withMaxDelegateDepth limit).tokenizeFrom library text state).drain
    Coarsens coarse.1 fine.1 ∧ Spells 0 (fine.1.map Token.span) text ∧
      fine.2.outer.engine = coarse.2.outer.engine.withMaxDelegateDepth limit := by
  intro coarse fine
  obtain ⟨tokens, -, ended⟩ := drain_start library table text state
  obtain ⟨tokensFine, -, endedFine⟩ :=
    drain_start library (table.withMaxDelegateDepth limit) text state
  obtain ⟨coarsens, final⟩ := Engine.run_coarsens library (.start table text state 0) le
  rw [Engine.start_withMaxDelegateDepth] at coarsens final
  refine ⟨?_, drain_spells library _ text state, ?_⟩
  · rwa [← tokens, ← tokensFine] at coarsens
  · rwa [← ended, ← endedFine] at final

/-- **Coarsening.** Tokenize a text twice with a table, from the same state and with the same
options, but let tokenizations be nested more deeply the second time. Every token of the first time
is a token of the second time, or it is text and what it takes up is tiled by tokens of the second
time that follow one another. Both times the stream ends with the same cursor and the same stack. -/
theorem tokenizeFrom_coarsens {shallow deep : Nat} (le : shallow ≤ deep) (library : Library)
    (table : RuleTable) (run : RunOptions) (text : List Char) (state : String) :
    let coarse := ((table.withRunOptions { run with maxDelegateDepth := shallow }).tokenizeFrom
      library text state).drain
    let fine := ((table.withRunOptions { run with maxDelegateDepth := deep }).tokenizeFrom
      library text state).drain
    (∀ token ∈ coarse.1, token ∈ fine.1 ∨ token.kind = .text ∧
      ∃ before pieces after, fine.1 = before ++ pieces ++ after ∧
        Tiles text token.start (pieces.map Token.span) token.stop) ∧
    coarse.2.cursor = fine.2.cursor ∧ coarse.2.stateStack = fine.2.stateStack := by
  intro coarse fine
  -- To give the table the higher limit is to replace the lower one.
  let lower := table.withRunOptions { run with maxDelegateDepth := shallow }
  have le : lower.options.run.maxDelegateDepth ≤ deep := le
  obtain ⟨coarsens, spelled, last⟩ : Coarsens coarse.1 fine.1 ∧
      Spells 0 (fine.1.map Token.span) text ∧
      fine.2.outer.engine = coarse.2.outer.engine.withMaxDelegateDepth deep :=
    Tokens.drain_coarsens library le text state
  refine ⟨?_, ?_, ?_⟩
  · intro token member
    rcases coarsens.mem_or_standsFor member with kept | ⟨before, pieces, after, joined, stands⟩
    · exact .inl kept
    · rw [joined] at spelled
      exact .inr ⟨stands.1, before, pieces, after, joined, stands.tiles spelled⟩
  · rw [Tokens.cursor, Tokens.cursor, last]
    rfl
  · rw [Tokens.stateStack, Tokens.stateStack, last]
    rfl

/-- What stands in parentheses is handed to the table itself, or it is left as text. -/
theorem tokenizeFrom_coarsens_of_parentheses :
    let nest : TableDef := ⟨"nest", {}, [⟨"root", [.staying "[a-z]+" (.token .name),
      .staying "(\\()(.*)(\\))"
        (.byGroups [.kind .punctuation, .delegate ⟨.this, none⟩, .kind .punctuation])]⟩]⟩
    let text := "(a(b))".toList
    ∃ table, nest.build [] = .ok table ∧
      let coarse := ((table.withRunOptions { maxDelegateDepth := 0 }).tokenizeFrom [] text
        "root").drain
      let fine := ((table.withRunOptions { maxDelegateDepth := 1 }).tokenizeFrom [] text
        "root").drain
      coarse.1 = [⟨.punctuation, 0, 1⟩, ⟨.text, 1, 5⟩, ⟨.punctuation, 5, 6⟩] ∧
      ⟨.text, 1, 5⟩ ∉ fine.1 ∧ ∃ before pieces after, fine.1 = before ++ pieces ++ after ∧
        Tiles text 1 (pieces.map Token.span) 5 := by
  intro nest text
  obtain ⟨table, built, tokens, gone⟩ : ∃ table, nest.build [] = .ok table ∧
      ((table.withRunOptions { maxDelegateDepth := 0 }).tokenizeFrom [] text "root").drain.1 =
        [⟨.punctuation, 0, 1⟩, ⟨.text, 1, 5⟩, ⟨.punctuation, 5, 6⟩] ∧
      ⟨.text, 1, 5⟩ ∉
        ((table.withRunOptions { maxDelegateDepth := 1 }).tokenizeFrom [] text "root").drain.1 :=
    ⟨_, rfl, by decide +kernel, by decide +kernel⟩
  refine ⟨table, built, tokens, gone, ?_⟩
  have among : ⟨.text, 1, 5⟩ ∈
      ((table.withRunOptions { maxDelegateDepth := 0 }).tokenizeFrom [] text "root").drain.1 := by
    rw [tokens]
    simp
  rcases (tokenizeFrom_coarsens (Nat.zero_le 1) [] table {} text "root").1 _ among with
    kept | ⟨-, tiled⟩
  · exact absurd kept gone
  · exact tiled

end RuleLexer
