import RuleLexer.Proofs.Engine.Idling
import RuleLexer.Proofs.Engine.Recovery
import RuleLexer.Proofs.Regex.Plain
import RuleLexer.Proofs.Rule.LongestWord

/-!
# The empty word

The least length of a vocabulary's pattern is computed from its expression, whose form depends on
the words: they may be a literal, a set, or branches with a common beginning taken out. Whatever the
form is, the least length is zero exactly if the empty word is listed, so a rule that stays is
refused for just these vocabularies, and no other text than a word is ever put out. There is one
exception. A vocabulary without words is written like the one with the empty word alone, so it
matches the empty text, though it lists no word.

## Main results

* `Vocabulary.canMatchEmpty_iff`: which vocabularies can match the empty text.
* `Vocabulary.empty_iff_listed`: what this means for building a table and for running it.
-/
namespace RuleLexer

open Text Regex

/-! ### Matches without groups -/

/-- Without groups a match is one part. -/
theorem Part.exists_ofMatch_eq {found : Match} (groupless : found.groups = []) (action : Action) :
    ∃ whole, Part.ofMatch action found = Part.nonempty 0 found.stop whole := by
  cases action with
  | token kind => exact ⟨.kind kind, rfl⟩
  | delegate delegate => exact ⟨.delegate delegate, rfl⟩
  | byGroups actions =>
    refine ⟨.skip, ?_⟩
    rw [ofMatch, groupless, List.zip_nil_right]
    rfl

namespace Engine

variable {library : Library} {engine : Engine} {item : Item} {rule : Rule} {found : Match}
  {start : Nat} {chars piece rest : List Char}

/-- A single item that covers a text is a token over it or an engine at its beginning. -/
theorem Covers.of_singleton (covers : Covers library engine start [item] chars) :
    chars ≠ [] ∧ ((∃ kind, item = .token ⟨kind, start, start + byteLength chars⟩) ∨
      ∃ table state, item = .nested start (.start table chars state (engine.depth + 1))) := by
  cases covers with
  | token kind nonempty tail =>
    cases tail
    rw [List.append_nil]
    exact ⟨nonempty, .inl ⟨kind, rfl⟩⟩
  | nested state nonempty _ _ tail =>
    cases tail
    rw [List.append_nil]
    exact ⟨nonempty, .inr ⟨_, state, rfl⟩⟩

/-- Whatever the action of a rule is, it is taken for the whole of a match without groups. -/
theorem item_of_groupless (fires : engine.firing? = some (rule, found))
    (groupless : found.groups = []) (split : engine.after = piece ++ rest)
    (size : byteLength piece = found.stop) (put : item ∈ (engine.step library).1) :
    piece ≠ [] ∧
      ((∃ kind, item = .token ⟨kind, engine.cursor, engine.cursor + byteLength piece⟩) ∨
        ∃ table state,
          item = .nested engine.cursor (.start table piece state (engine.depth + 1))) := by
  have within := Pattern.matchHere?_within (firing?_eq_some fires).2.1
  have covers := ofMatch_covers library rule.action split size within
  obtain ⟨whole, parts⟩ := Part.exists_ofMatch_eq groupless rule.action
  simp only [step, fires, fire, parts] at put
  rw [parts] at covers
  unfold Part.nonempty at put covers
  split at put
  next some =>
    rw [if_pos some] at covers
    cases List.mem_singleton.mp put
    exact covers.of_singleton
  next => cases put

end Engine

namespace Vocabulary

variable {options : PatternOptions} {vocabulary : Vocabulary} {pattern : Pattern}
  {words : List (List Char)} {word : String}

/-- Nothing is asked for before or behind the words. -/
def Bare (vocabulary : Vocabulary) : Prop := vocabulary.lead = "" ∧ vocabulary.tail = ""

/-! ### No words at all -/

/-- The words that the pattern of a vocabulary is read as, of which there is always one. -/
def filled (vocabulary : Vocabulary) : Vocabulary :=
  { vocabulary with words := if vocabulary.words = [] then [""] else vocabulary.words }

theorem pattern_filled : vocabulary.filled.pattern = vocabulary.pattern := by
  unfold filled
  split
  next none => simp [pattern, sortedWords, none, insertWord, alternatives, escapeWord]
  next => rfl

theorem words_filled_ne_nil : vocabulary.filled.words ≠ [] := by
  unfold filled
  split
  next => exact List.cons_ne_nil _ _
  next some => exact some

theorem mem_words_filled : word ∈ vocabulary.filled.words ↔
    word ∈ vocabulary.words ∨ vocabulary.words = [] ∧ word = "" := by
  unfold filled
  split
  next none => simp [none]
  next some => simp [some]

/-! ### The expression -/

theorem plain_spell (char : Char) : (spell options char).Plain := by
  unfold spell
  split
  · apply Expr.plain_ofSet
    rw [CharSet.foldCase_single]
    exact CharSet.union_ne_nil (.inl (List.cons_ne_nil _ _))
  · trivial

theorem plain_wordExpr (word : List Char) : (wordExpr options word).Plain := by
  apply Expr.plain_sequence
  simp [plain_spell]

theorem plain_body (nonempty : words ≠ []) : (body options words).Plain := by
  unfold body
  split
  · exact plain_wordExpr _
  · apply Expr.plain_choice
    · exact mt List.map_eq_nil_iff.mp nonempty
    · simp [plain_wordExpr]

theorem plain_expr (nonempty : vocabulary.words ≠ []) (tail : vocabulary.tail = "") :
    (vocabulary.expr options).Plain := by
  apply Expr.plain_sequence
  have behind : vocabulary.behind = [] := by simp [behind, tail]
  rw [behind, List.forall_mem_singleton]
  exact plain_body (sortedWords_ne_nil nonempty)

/-- Of all words only the empty one fits on the empty text. -/
theorem isSome_stop?_iff (tail : vocabulary.tail = "") :
    ((Program.ofExpr (vocabulary.expr options)).stop? none []).isSome ↔
      "" ∈ vocabulary.words := by
  have fitting (word : List Char) : vocabulary.fits options none [] word ↔ word = [] := by
    cases word with
    | nil => simp [fits, spells, mayEnd, tail]
    | cons => simp [fits, spells]
  rw [stop?_ofExpr, List.findSome?_isSome_iff]
  constructor
  · rintro ⟨word, member, stops⟩
    split at stops
    next fits =>
      obtain ⟨listed, among, spelled⟩ := mem_sortedWords.mp member
      rw [(fitting word).mp fits] at spelled
      rwa [String.toList_eq_nil_iff.mp spelled] at among
    next => cases stops
  · intro member
    refine ⟨[], mem_sortedWords.mpr ⟨"", member, rfl⟩, ?_⟩
    rw [if_pos ((fitting []).mpr rfl)]
    rfl

/-- The least length is zero exactly if the empty word is listed. -/
theorem leastLength_expr_iff (nonempty : vocabulary.words ≠ []) (tail : vocabulary.tail = "") :
    (vocabulary.expr options).leastLength = some 0 ↔ "" ∈ vocabulary.words := by
  have plain : (vocabulary.expr options).Plain := plain_expr nonempty tail
  have listed : ((Program.ofExpr (vocabulary.expr options)).stop? none []).isSome ↔
      "" ∈ vocabulary.words := isSome_stop?_iff tail
  rw [← listed]
  constructor
  · intro zero
    have ends := plain.mem_ends zero ⟨none, 0, []⟩
    rw [Program.stop?_eq_head?, Program.ends_ofExpr flat_expr, Option.isSome_map, List.isSome_head?]
    exact List.ne_nil_of_mem ends
  · intro stops
    obtain ⟨least, known⟩ :=
      Option.isSome_iff_exists.mp ((Expr.leastLength_isSome_iff _).mpr plain.populated)
    rw [Program.stop?_eq, Option.isSome_map] at stops
    obtain ⟨success, found⟩ := Option.isSome_iff_exists.mp stops
    -- A way that consumes would end behind the empty text.
    rcases Nat.eq_zero_or_pos least with rfl | positive
    · exact known
    · have consumed := (Program.consuming_ofExpr known positive).stop_pos found
      obtain ⟨front, back, split, size⟩ := (Program.run_within found).stops
      obtain ⟨rfl, -⟩ := List.append_eq_nil_iff.mp split.symm
      simp only [byteLength] at size
      omega

/-! ### The pattern -/

/-- The pattern of a vocabulary compiles unless it is too large. -/
theorem compile_of_bare (bare : vocabulary.Bare) :
    Pattern.compile options vocabulary.pattern =
      if (vocabulary.filled.expr options).footprint > footprintLimit then .error .tooLarge
      else .ok (.ofExpr vocabulary.pattern none (vocabulary.filled.expr options)) := by
  rw [← pattern_filled]
  exact compile_pattern words_filled_ne_nil bare.1 (.inl bare.2)

theorem eq_ofExpr_of_compile (bare : vocabulary.Bare)
    (compiled : Pattern.compile options vocabulary.pattern = .ok pattern) :
    pattern = .ofExpr vocabulary.pattern none (vocabulary.filled.expr options) := by
  rw [compile_of_bare bare] at compiled
  split at compiled
  · cases compiled
  · exact (Except.ok.inj compiled).symm

/-- A vocabulary can match the empty text if it lists the empty word, or no word at all. -/
theorem canMatchEmpty_iff (bare : vocabulary.Bare)
    (compiled : Pattern.compile options vocabulary.pattern = .ok pattern) :
    pattern.canMatchEmpty ↔ "" ∈ vocabulary.words ∨ vocabulary.words = [] := by
  rw [eq_ofExpr_of_compile bare compiled, Pattern.canMatchEmpty, decide_eq_true_eq]
  have listed : (vocabulary.filled.expr options).leastLength = some 0 ↔
      "" ∈ vocabulary.filled.words := leastLength_expr_iff words_filled_ne_nil bare.2
  simpa [Pattern.ofExpr, mem_words_filled] using listed

/-- Where case matters, a match is a word, and it has no groups. -/
theorem exists_word_of_matchHere? (bare : vocabulary.Bare)
    (exact : options.caseInsensitive = false)
    (compiled : Pattern.compile options vocabulary.pattern = .ok pattern)
    {before after : List Char} {found : Match}
    (matched : pattern.matchHere? before after = some found) :
    found.groups = [] ∧ ∃ word ∈ vocabulary.filled.words, ∃ back, after = word.toList ++ back ∧
      byteLength word.toList = found.stop := by
  have plain : (vocabulary.filled.expr options).Plain := plain_expr words_filled_ne_nil bare.2
  have same := eq_ofExpr_of_compile bare compiled
  constructor
  · have count := Pattern.length_groups_of_matchHere? matched
    rw [same] at count
    exact List.length_eq_zero_iff.mp (count.trans plain.captureCount_eq_zero)
  · have stops : pattern.stopHere? before after = some found.stop := by
      rw [Pattern.stopHere?_eq, matched]
      rfl
    rw [same, stopHere?_ofExpr, List.findSome?_eq_some_iff] at stops
    obtain ⟨earlier, word, later, listed, stop, -⟩ := stops
    split at stop
    next fits =>
      obtain ⟨piece, back, rfl, each, -⟩ := fits_iff.mp fits
      obtain ⟨spelled, member, rfl⟩ := mem_sortedWords.mp
        (show word ∈ vocabulary.filled.sortedWords by simp [listed])
      have whole := (forall₂_takes_of_exact exact).mp each
      subst whole
      rw [List.take_left, Option.some.injEq] at stop
      exact ⟨spelled, member, back, rfl, stop⟩
    next => cases stop

/-! ### Tables -/

/-- A pattern that is refused is too large. -/
theorem compile_eq_tooLarge (bare : vocabulary.Bare)
    (large : (vocabulary.filled.expr options).footprint > footprintLimit) :
    Pattern.compile options vocabulary.pattern = .error .tooLarge ∧ vocabulary.words ≠ [] ∧
      footprintLimit < (vocabulary.expr options).footprint ∧
      (options.caseInsensitive = false →
        footprintLimit < 36 * byteLength vocabulary.pattern.toList) := by
  have some : vocabulary.words ≠ [] := by
    -- The one word of a vocabulary that lists none takes no room.
    intro none
    have small : (vocabulary.filled.expr options).footprint = 32 := by
      have words : vocabulary.filled.sortedWords = [[]] := by
        simp [filled, none, sortedWords, insertWord]
      have behind : vocabulary.filled.behind = [] := if_neg (by simp [filled, bare.2])
      rw [expr, words, behind]
      rfl
    rw [small] at large
    exact absurd large (by decide)
  have same : vocabulary.filled = vocabulary := by simp [filled, some]
  refine ⟨?_, some, ?_, ?_⟩
  · rw [compile_of_bare bare, if_pos large]
  · rwa [same] at large
  · intro exact
    rw [same] at large
    exact Nat.lt_of_lt_of_le large (footprint_expr_le exact some)

/-- What a vocabulary's rule puts out where case matters stands for a word: it is a token over the
word, or an engine that runs over it. -/
theorem item_of_fires {library : Library} {origin engine : Engine} {base : Nat}
    (bare : vocabulary.Bare) (arises : Engine.Arises library origin base engine)
    (aligned : origin.Aligned) {rule : Rule} {found : Match}
    (compiled : Pattern.compile options vocabulary.pattern = .ok rule.pattern)
    (exact : options.caseInsensitive = false) (fires : engine.firing? = some (rule, found))
    {item : Item} (put : item ∈ (engine.step library).1) :
    ∃ word ∈ vocabulary.words,
      (∀ token, item = .token token → (token.shift base).text origin.text = .ok word.toList) ∧
      ∀ offset inner, item = .nested offset inner → inner.text = word.toList := by
  have matched := (Engine.firing?_eq_some fires).2.1
  obtain ⟨groupless, word, member, back, split, size⟩ :=
    exists_word_of_matchHere? bare exact compiled matched
  obtain ⟨nonempty, shape⟩ := Engine.item_of_groupless fires groupless split size put
  -- The word that is filled in is empty, and nothing is put out for an empty match.
  have listed : word ∈ vocabulary.words := by
    rcases mem_words_filled.mp member with listed | ⟨-, rfl⟩
    · exact listed
    · exact absurd rfl nonempty
  refine ⟨word, listed, ?_, ?_⟩
  · rintro token rfl
    rcases shape with ⟨kind, same⟩ | ⟨table, state, same⟩
    · cases same
      exact arises.text_of_piece aligned split kind
    · cases same
  · rintro offset inner rfl
    rcases shape with ⟨kind, same⟩ | ⟨table, state, same⟩
    · cases same
    · cases same
      simp [Engine.text, Engine.start]

/-- **The empty word.** Let nothing be asked for around the words of a vocabulary. Its pattern
compiles unless it is too large, and it can match the empty text exactly if the empty word is
listed, or if no word is. For just these vocabularies a rule that stays is refused as one that
idles, so no definition with such a rule is built, and a build that fails for idling and shows the
pattern has such a rule in the state that it names. Where case matters, whatever a rule with the
pattern puts out, in any tokenization with tables that have been built, is a token over a word or
the tokenization of a word. -/
theorem empty_iff_listed (vocabulary : Vocabulary) (bare : vocabulary.Bare) :
    let hasEmpty : Prop := "" ∈ vocabulary.words ∨ vocabulary.words = []
    (∀ options, (∃ pattern, Pattern.compile options vocabulary.pattern = .ok pattern ∧
        (pattern.canMatchEmpty ↔ hasEmpty)) ∨
      Pattern.compile options vocabulary.pattern = .error .tooLarge ∧ vocabulary.words ≠ [] ∧
        footprintLimit < (vocabulary.expr options).footprint ∧
        (options.caseInsensitive = false →
          footprintLimit < 36 * byteLength vocabulary.pattern.toList)) ∧
    (∀ (context : BuildContext) state action pattern,
      Pattern.compile context.options vocabulary.pattern = .ok pattern →
        (context.compileRule state vocabulary.pattern action .stay =
          .error (.emptyMatch state vocabulary.pattern) ↔ hasEmpty)) ∧
    (∀ library (definition : TableDef),
      (hasEmpty → (∃ state ∈ definition.states, ∃ action,
        .rule vocabulary.pattern action .stay ∈ state.entries) →
          ∃ error, definition.build library = .error error) ∧
      ∀ name, definition.build library = .error (.emptyMatch name vocabulary.pattern) →
        hasEmpty ∧ ∃ state ∈ definition.states, state.name = name ∧ ∃ action,
          .rule vocabulary.pattern action .stay ∈ state.entries) ∧
    ∀ (library : Library) (table : RuleTable) state,
      library.Built → table.BuiltFrom library → table.hasState state →
      ∀ text base (engine : Engine), Engine.Arises library (.start table text state 0) base engine →
        engine.table.options.patterns.caseInsensitive = false →
        ∀ rule found, engine.firing? = some (rule, found) →
          rule.pattern.source = vocabulary.pattern →
          (∀ token, .token token ∈ (engine.step library).1 →
            ∃ word ∈ vocabulary.words, (token.shift base).text text = .ok word.toList) ∧
          ∀ offset inner, .nested offset inner ∈ (engine.step library).1 →
            ∃ word ∈ vocabulary.words, inner.text = word.toList := by
  intro hasEmpty
  refine ⟨?_, ?_, ?_, ?_⟩
  · intro options
    by_cases large : (vocabulary.filled.expr options).footprint > footprintLimit
    · exact .inr (compile_eq_tooLarge bare large)
    · have compiled : Pattern.compile options vocabulary.pattern =
          .ok (.ofExpr vocabulary.pattern none (vocabulary.filled.expr options)) := by
        rw [compile_of_bare bare, if_neg large]
      exact .inl ⟨_, compiled, canMatchEmpty_iff bare compiled⟩
  · intro context state action pattern compiled
    rw [BuildContext.compileRule_eq_emptyMatch_iff]
    refine Iff.trans ?_ (canMatchEmpty_iff bare compiled)
    simp [compiled]
  · intro library definition
    constructor
    · rintro empty ⟨state, defined, action, member⟩
      apply TableDef.exists_error_of_unfit defined member
      intro pattern compiled fits
      exact fits.moves ⟨(canMatchEmpty_iff bare compiled).mpr empty, rfl⟩
    · intro name failed
      obtain ⟨state, defined, named, action, member, pattern, compiled, empty⟩ :=
        TableDef.exists_staying_of_emptyMatch failed
      exact ⟨(canMatchEmpty_iff bare compiled).mp empty, state, defined, named, action, member⟩
  · intro library table state tables built known text base engine arises exact rule found fires same
    have begun := Engine.consistent_start built.closed known text 0
    have consistent := arises.reaches.consistent (fun _ => tables.closed) begun
    have member := (Engine.firing?_eq_some fires).1
    obtain ⟨source, compiled⟩ := (consistent.admits member).compiled
    obtain ⟨-, -, -, -, -, spelled⟩ := Pattern.compile_eq_ok compiled
    rw [← spelled, same] at compiled
    have stands {item : Item} (put : item ∈ (engine.step library).1) :=
      item_of_fires bare arises begun.aligned compiled exact fires put
    constructor
    · intro token put
      obtain ⟨word, listed, covers, -⟩ := stands put
      exact ⟨word, listed, covers token rfl⟩
    · intro offset inner put
      obtain ⟨word, listed, -, runs⟩ := stands put
      exact ⟨word, listed, runs offset inner rfl⟩

/-- Of two words one begins like the other. A rule with them is not refused, and what its first
match puts out is a token over one of them. -/
theorem empty_iff_listed_of_into :
    let vocabulary : Vocabulary := { words := ["in", "into"] }
    let root : StateDef := ⟨"root", [.staying vocabulary.pattern (.token .name)]⟩
    vocabulary.Bare ∧ ∃ table, (⟨"into", {}, [root]⟩ : TableDef).build [] = .ok table ∧
      let engine := Engine.start table "into!".toList "root" 0
      ∃ rule found, engine.firing? = some (rule, found) ∧
        rule.pattern.source = vocabulary.pattern ∧ .token ⟨.name, 0, 4⟩ ∈ (engine.step []).1 ∧
        ∃ word ∈ vocabulary.words,
          (Token.shift 0 ⟨.name, 0, 4⟩).text "into!".toList = .ok word.toList := by
  intro vocabulary root
  have bare : vocabulary.Bare := ⟨rfl, rfl⟩
  have checked : ((⟨"into", {}, [root]⟩ : TableDef).build []).toOption.any fun table =>
      table.hasState "root" && table.options.patterns.caseInsensitive == false &&
      (Engine.start table "into!".toList "root" 0).firing?.any fun firing =>
        firing.1.pattern.source = "(?:into|in)" ∧ firing.1.action = .token .name ∧
          firing.2 = ⟨4, []⟩ := by
    decide +kernel
  obtain ⟨table, done, checked⟩ := exists_ok_of_any checked
  simp only [Bool.and_eq_true, beq_iff_eq] at checked
  obtain ⟨⟨known, exact⟩, checked⟩ := checked
  obtain ⟨⟨rule, found⟩, fires, checked⟩ := (Option.any_eq_true _ _).mp checked
  obtain ⟨spelled, action, rfl⟩ : rule.pattern.source = "(?:into|in)" ∧
      rule.action = .token .name ∧ found = ⟨4, []⟩ := of_decide_eq_true checked
  have same : rule.pattern.source = vocabulary.pattern := spelled.trans (by decide)
  have put : Item.token ⟨.name, 0, 4⟩ ∈
      ((Engine.start table "into!".toList "root" 0).step []).1 := by
    simp only [Engine.step, fires, Engine.fire, action]
    exact List.mem_singleton_self _
  refine ⟨bare, table, done, rule, _, fires, same, put, ?_⟩
  exact ((empty_iff_listed vocabulary bare).2.2.2 [] table "root" .nil
    (RuleTable.builtFrom_of_build done) known _ 0 _ .origin exact rule _ fires same).1 _ put

/-- A vocabulary without words can match the empty text, and a rule with it that stays is refused
for idling. -/
theorem exists_empty_unlisted :
    let vocabulary : Vocabulary := { words := [] }
    vocabulary.Bare ∧ "" ∉ vocabulary.words ∧
      (∃ pattern, Pattern.compile {} vocabulary.pattern = .ok pattern ∧ pattern.canMatchEmpty) ∧
      (⟨"none", {}, [⟨"root", [.staying vocabulary.pattern (.token .name)]⟩]⟩ : TableDef).build [] =
        .error (.emptyMatch "root" vocabulary.pattern) :=
  ⟨⟨rfl, rfl⟩, List.not_mem_nil, ⟨_, rfl, rfl⟩, rfl⟩

end Vocabulary

end RuleLexer
