import RuleLexer.Language.Gsql
import RuleLexer.Proofs.Regex.Compiling
import RuleLexer.Proofs.Regex.Words
import RuleLexer.Proofs.Rule.WordOrder
import RuleLexer.Proofs.Table.Closed

/-!
# The rules of the GSQL table

The table for GSQL can be built, and what its rules do to words can be told from their patterns.
Most of them never stop inside a word. A keyword is a match that begins and ends with characters of
words, that a dot does not stand before, and that an edge of a word stands after. The names of
clauses, accumulators and functions, punctuation, numbers and operators are the ones that may be cut
out of a word.

## Main results

* `Gsql.exists_table`: the table is built.
* `Gsql.treats_of_mem_rules`: what each of its rules does to words.
* `Gsql.compiles_root`: the rules of the root are the entries of all states, in order.
-/
namespace RuleLexer

open Regex

namespace Gsql

/-! ### What rules do to words -/

/-- The switches that all patterns are read with. -/
def options : PatternOptions := definition.options.patterns

/-- Every character but the end of a line. -/
def anyInLine : CharSet := (CharSet.single '\n').complement

/-- The kinds of the tokens that may end inside a word. -/
def cutKinds : List TokenKind :=
  [.nameBuiltin, .nameFunction, .punctuation, .number, .operator, .error]

/-- No dot stands before a place. -/
def noDotBehind : Lookbehind := ⟨true, .concat (.literal ['.']) (.look .textEnd)⟩

/-- A pattern for keywords: a match begins and ends with characters of words, and an edge of a word
stands after it. No dot may stand before it. -/
structure KeywordPattern (pattern : Pattern) : Prop where
  consumes : pattern.program.mustConsume
  starts : pattern.program.startsIn WordScope.unicode.holds
  ends : pattern.program.endsIn WordScope.unicode.holds
  edge : pattern.program.endsAt (.wordEdge .unicode)
  dotless : pattern.lookbehind = some noDotBehind

/-- A character of a set, or nothing. -/
def oneOrNone (chars : CharSet) : Program := .alt (.seq (.set chars) .done) .done

/-- A dash and a blank after it, if there is one. -/
def firstDash : Program := .seq (.literal ['-']) (oneOrNone Unicode.Shorthand.space)

/-- What stands in parentheses and ends in a colon and at most one character of a word. -/
def inParentheses : Program :=
  .seq (.literal ['(']) (.seq (.greed 0 anyInLine) (.seq (.literal [':'])
    (.seq (oneOrNone Unicode.Shorthand.word) (.literal [')']))))

/-- A dash and a blank before it, if there is one. -/
def lastDash : Program := .seq (oneOrNone Unicode.Shorthand.space) (.literal ['-'])

/-- The actions of the three groups of an edge pattern. -/
def edgeActions : List GroupAction :=
  [.kind .operator, .delegate ⟨.this, none⟩, .kind .operator]

/-- The three groups of an edge pattern. -/
def edgeProgram : Program :=
  .seq (firstDash.group 1) (.seq (inParentheses.group 2) (lastDash.group 3))

/-- What a rule does to words. -/
inductive Treats (pattern : Pattern) : Action → Prop
  /-- A token that is no keyword ends where no word is cut. -/
  | spares {kind : TokenKind} (other : kind ≠ .keyword) (spares : pattern.SparesWords) :
    Treats pattern (.token kind)
  /-- A token may end inside a word. -/
  | cuts {kind : TokenKind} (among : kind ∈ cutKinds) : Treats pattern (.token kind)
  | keyword (keyword : KeywordPattern pattern) : Treats pattern (.token .keyword)
  /-- The part in parentheses is tokenized again. -/
  | edge (edge : pattern.program = edgeProgram) (grouped : pattern.groupCount = 3) :
    Treats pattern (.byGroups edgeActions)

/-- An entry that is an inclusion, or a rule that stays where it is, moves on at every match and is
known to treat words in one of these ways. -/
def Fair : RuleDef → Prop
  | .includeState _ => True
  | .rule source action next => next = .stay ∧ ∃ pattern,
    Pattern.compile options source = .ok pattern ∧ ¬pattern.canMatchEmpty ∧ Treats pattern action

/-! ### Checks of patterns -/

def moves (pattern : Pattern) : Bool := !pattern.canMatchEmpty

/-- The last character of a match belongs to no word. -/
def endsOutside (pattern : Pattern) : Bool :=
  moves pattern && pattern.program.mustConsume &&
    pattern.program.endsIn fun char => !WordScope.unicode.holds char

/-- A match runs on for as long as characters of a set follow. -/
def runsOn (chars : CharSet) (pattern : Pattern) : Bool :=
  moves pattern && pattern.program.last = .greed 0 chars

def isKeyword (pattern : Pattern) : Bool :=
  moves pattern && pattern.program.mustConsume &&
    pattern.program.startsIn WordScope.unicode.holds &&
    pattern.program.endsIn WordScope.unicode.holds &&
    pattern.program.endsAt (.wordEdge .unicode)

def isEdge (pattern : Pattern) : Bool :=
  moves pattern && pattern.program = edgeProgram && pattern.groupCount = 3

variable {source : String} {kind : TokenKind}

theorem fair_of_endsOutside (other : kind ≠ .keyword)
    (found : ∃ pattern, Pattern.compile options source = .ok pattern ∧ endsOutside pattern) :
    Fair (.staying source (.token kind)) := by
  obtain ⟨pattern, compiled, checked⟩ := found
  simp only [endsOutside, moves, Bool.and_eq_true, Bool.not_eq_true'] at checked
  obtain ⟨⟨moves, consumes⟩, ends⟩ := checked
  exact ⟨rfl, pattern, compiled, by simp [moves],
    .spares other (Pattern.sparesWords_of_endsIn consumes ends)⟩

theorem fair_of_runsOn (chars : CharSet) (other : kind ≠ .keyword)
    (all : ∀ char, WordScope.unicode.holds char → chars.contains char)
    (found : ∃ pattern, Pattern.compile options source = .ok pattern ∧ runsOn chars pattern) :
    Fair (.staying source (.token kind)) := by
  obtain ⟨pattern, compiled, checked⟩ := found
  simp only [runsOn, moves, Bool.and_eq_true, Bool.not_eq_true', decide_eq_true_eq] at checked
  exact ⟨rfl, pattern, compiled, by simp [checked.1],
    .spares other (Pattern.sparesWords_of_greed checked.2 all)⟩

theorem fair_of_cuts (among : kind ∈ cutKinds)
    (found : ∃ pattern, Pattern.compile options source = .ok pattern ∧ moves pattern) :
    Fair (.staying source (.token kind)) := by
  obtain ⟨pattern, compiled, checked⟩ := found
  exact ⟨rfl, pattern, compiled, by simpa [moves] using checked, .cuts among⟩

theorem contains_anyInLine {char : Char} (other : char ≠ '\n') : anyInLine.contains char := by
  have value : char.toNat ≠ 10 := fun same => other (Char.toNat_inj.mp same)
  have scalar : char.toNat < 0x110000 := by
    rcases char.valid with low | high
    · exact Nat.lt_trans low (by decide)
    · exact high.2
  -- The end of a line is the gap between the two ranges of the set.
  change CharSet.inRanges char.toNat [(0, 9), (11, 0x10FFFF)] = true
  simp only [CharSet.inRanges]
  grind

set_option maxRecDepth 100000

theorem fair_comment : ∀ entry ∈ comment, Fair entry := by
  have line : Fair (.staying "#.*" (.token .commentSingle)) := by
    refine fair_of_runsOn anyInLine (by decide) ?_
      (Pattern.exists_compile rfl rfl (by decide))
    -- A comment runs on to the end of the line, which is no character of a word.
    intro char word
    refine contains_anyInLine ?_
    rintro rfl
    exact absurd word (by decide)
  have block : Fair (.staying "/\\*(.|\\n)*?\\*/" (.token .commentMultiline)) :=
    fair_of_endsOutside (by decide) (Pattern.exists_compile rfl rfl (by decide))
  simpa [comment] using ⟨line, block⟩

/-- The pattern of the keywords. -/
def keywordSource : String :=
  Vocabulary.pattern { words := keywords, lead := "(?<!\\.)", tail := "\\b" }

/-- The pattern of the keywords without its look-behind. -/
def keywordBody : List Char :=
  "(?:".toList ++ (Vocabulary.alternatives (Vocabulary.sortedWords { words := keywords }) ++
    (")".toList ++ "\\b".toList))

/-- The pattern of the keywords is compiled to its look-behind and the rest. -/
theorem exists_compile_keywords {check : Pattern → Bool}
    (read : (Pattern.readExpr options keywordBody).toOption.any fun expr =>
      check (.ofExpr keywordSource (some noDotBehind) expr)) :
    ∃ pattern, Pattern.compile options keywordSource = .ok pattern ∧
      pattern.lookbehind = some noDotBehind ∧ check pattern :=
  Pattern.exists_compile_of_lookbehind ⟨true, ['\\', '.'], keywordBody⟩ _
    (Vocabulary.toList_pattern _) rfl rfl read

theorem fair_keywordRule : Fair keywordRule := by
  have read : (Pattern.readExpr options keywordBody).toOption.any fun expr =>
      isKeyword (.ofExpr keywordSource (some noDotBehind) expr) := by
    -- The kernel reads a text as characters only if it is spelled out.
    simp only [keywordBody, Vocabulary.sortedWords, keywords, List.map_cons, List.map_nil,
      String.reduceToList]
    decide +kernel
  obtain ⟨pattern, compiled, dotless, checked⟩ := exists_compile_keywords read
  simp only [isKeyword, moves, Bool.and_eq_true, Bool.not_eq_true'] at checked
  obtain ⟨⟨⟨⟨moves, consumes⟩, starts⟩, ends⟩, edge⟩ := checked
  exact ⟨rfl, pattern, compiled, by simp [moves], .keyword ⟨consumes, starts, ends, edge, dotless⟩⟩

theorem fair_clauses : Fair (wordRule clauses .nameBuiltin) :=
  fair_of_cuts (by decide)
    (Pattern.exists_compile (Vocabulary.toList_pattern _) rfl (by decide))

theorem fair_accumulators : Fair (wordRule accumulators .nameBuiltin) :=
  fair_of_cuts (by decide)
    (Pattern.exists_compile (Vocabulary.toList_pattern _) rfl (by decide))

theorem fair_functions : Fair (wordRule functions .nameFunction) := by
  refine fair_of_cuts (by decide) (Pattern.exists_compile (Vocabulary.toList_pattern _) rfl ?_)
  simp only [Vocabulary.sortedWords, functions, List.map_cons, List.map_nil, String.reduceToList]
  decide +kernel

theorem fair_relations : ∀ entry ∈ relations, Fair entry := by
  have edge : Fair (.staying "(-\\s?)(\\(.*:\\w?\\))(\\s?-)" (.byGroups edgeActions)) := by
    obtain ⟨pattern, compiled, checked⟩ : ∃ pattern, Pattern.compile options
        "(-\\s?)(\\(.*:\\w?\\))(\\s?-)" = .ok pattern ∧ isEdge pattern :=
      Pattern.exists_compile rfl rfl (by decide)
    simp only [isEdge, moves, Bool.and_eq_true, Bool.not_eq_true', decide_eq_true_eq] at checked
    exact ⟨rfl, pattern, compiled, by simp [checked.1.1], .edge checked.1.2 checked.2⟩
  have arrow : Fair (.staying "->|<-" (.token .operator)) :=
    fair_of_endsOutside (by decide) (Pattern.exists_compile rfl rfl (by decide))
  -- The underscore is among these signs, and it is a character of words.
  have mark : Fair (.staying "[.*\x7b\x7d\\[\\]<>_]" (.token .punctuation)) :=
    fair_of_cuts (by decide) (Pattern.exists_compile rfl rfl (by decide))
  simpa [relations, edgeActions] using And.intro edge ⟨arrow, mark⟩

theorem fair_strings : ∀ entry ∈ strings, Fair entry := by
  have string : Fair (.staying "\"([^\"\\\\]|\\\\.)*\"" (.token .string)) :=
    fair_of_endsOutside (by decide) (Pattern.exists_compile rfl rfl (by decide))
  have named : Fair (.staying "@\x7b1,2\x7d\\w+" (.token .nameVariable)) :=
    fair_of_runsOn Unicode.Shorthand.word (by decide) (fun _ word => word)
      (Pattern.exists_compile rfl rfl (by decide))
  simpa [strings] using ⟨string, named⟩

theorem fair_whitespace : Fair (.staying "\\s+" (.token .whitespace)) :=
  fair_of_endsOutside (by decide) (Pattern.exists_compile rfl rfl (by decide))

theorem fair_barewords : ∀ entry ∈ barewords, Fair entry := by
  have name : Fair (.staying "[a-z]\\w*" (.token .name)) :=
    fair_of_runsOn Unicode.Shorthand.word (by decide) (fun _ word => word)
      (Pattern.exists_compile rfl rfl (by decide))
  have number : Fair (.staying "(\\d+\\.\\d+|\\d+)" (.token .number)) :=
    fair_of_cuts (by decide) (Pattern.exists_compile rfl rfl (by decide))
  simpa [barewords] using ⟨name, number⟩

theorem fair_operators : ∀ entry ∈ operators, Fair entry := by
  -- The last of the characters of a long operator may be one of a word.
  have long : Fair (.staying
      "\\$|[^0-9|/\\-](-=|\\+=|\\*=|\\\\=|=|==|===|\\+|-|\\*|\\\\|\\+=|>|<)[^>|/]"
      (.token .operator)) :=
    fair_of_cuts (by decide) (Pattern.exists_compile rfl rfl (by decide))
  have short : Fair (.staying "(\\||\\(|\\)|,|;|=|-|\\+|\\*|/|>|<|:)" (.token .operator)) :=
    fair_of_endsOutside (by decide) (Pattern.exists_compile rfl rfl (by decide))
  simpa [operators] using ⟨long, short⟩

/-! ### The table -/

theorem fair_of_mem : ∀ state ∈ definition.states, ∀ entry ∈ state.entries, Fair entry := by
  intro state member entry here
  simp only [definition, List.mem_cons, List.not_mem_nil, or_false] at member
  rcases member with
    rfl | rfl | rfl | rfl | rfl | rfl | rfl | rfl | rfl | rfl | rfl
  · simp only [List.mem_cons, List.not_mem_nil, or_false] at here
    rcases here with rfl | rfl | rfl | rfl | rfl | rfl | rfl | rfl | rfl | rfl <;> exact trivial
  · exact fair_comment entry here
  · exact List.mem_singleton.mp here ▸ fair_keywordRule
  · exact List.mem_singleton.mp here ▸ fair_clauses
  · exact List.mem_singleton.mp here ▸ fair_accumulators
  · exact List.mem_singleton.mp here ▸ fair_functions
  · exact fair_relations entry here
  · exact fair_strings entry here
  · exact List.mem_singleton.mp here ▸ fair_whitespace
  · exact fair_barewords entry here
  · exact fair_operators entry here

/-- Only the root includes states, and it does not include itself. -/
theorem of_includes {outer inner : String} (includes : definition.Includes outer inner) :
    outer = "root" ∧ inner ≠ "root" ∧ inner ∈ definition.states.map StateDef.name := by
  obtain ⟨state, member, rfl, here⟩ := includes
  have all : definition.states.all fun state => state.entries.all fun
      | .includeState target => state.name = "root" && target ≠ "root" &&
        target ∈ definition.states.map StateDef.name
      | .rule _ _ _ => true := by decide
  have known := List.all_eq_true.mp (List.all_eq_true.mp all state member) _ here
  simpa [and_assoc] using known

theorem wellFormed : definition.WellFormed [] where
  distinct := by decide
  root := by decide
  included state member target here := (of_includes ⟨state, member, rfl, here⟩).2.2
  acyclic := by
    intro name cycle
    -- A cycle of inclusions would begin and end with the root.
    obtain ⟨_, first, -⟩ := Relation.TransGen.head'_iff.mp cycle
    obtain ⟨_, -, last⟩ := Relation.TransGen.tail'_iff.mp cycle
    exact (of_includes last).2.1 (of_includes first).1
  taken := by
    intro state member source action next here
    obtain ⟨rfl, pattern, compiled, moves, treats⟩ := fair_of_mem state member _ here
    refine ⟨pattern, compiled, ?_, ?_, ?_, ?_⟩
    · rintro ⟨idle, -⟩
      exact moves idle
    · cases treats with
      | edge _ grouped =>
        rintro actions same
        cases same
        exact grouped.symm
      | spares | cuts | keyword => exact fun _ same => nomatch same
    · cases treats with
      | edge => simp [Action.delegates, edgeActions, BuildContext.Knows]
      | spares | cuts | keyword => simp [Action.delegates]
    · simp [Transition.targets]

theorem exists_table : ∃ built, table = .ok built := wellFormed.exists_table

variable {built : RuleTable}

theorem treats_of_mem_rules (known : table = .ok built) {name : String} {rule : Rule}
    (member : rule ∈ built.rules name) : Treats rule.pattern rule.action := by
  obtain ⟨state, among, here⟩ := RuleTable.exists_state_of_mem_rules member
  obtain ⟨origin, defined, source, entry, compiled⟩ :=
    TableDef.exists_entry_of_mem_rules known among here
  obtain ⟨-, pattern, again, -, treats⟩ := fair_of_mem origin defined _ entry
  -- The entry of the rule is compiled to one pattern only.
  cases compiled.symm.trans again
  exact treats

/-- The entries of the root with those of the other states in the place of the inclusions. -/
def rootEntries : List RuleDef :=
  comment ++ keywordRule :: wordRule clauses .nameBuiltin :: wordRule accumulators .nameBuiltin ::
    (relations ++ wordRule functions .nameFunction :: (strings ++
      .staying "\\s+" (.token .whitespace) :: (barewords ++ operators)))

/-- The rules of the root are the entries of all states, in order. -/
theorem compiles_root (known : table = .ok built) :
    List.Forall₂ (definition.context []).Compiles rootEntries (built.rules "root") := by
  obtain ⟨-, -, -, -, stand⟩ := TableDef.build_eq_ok_iff.mp known
  have first : definition.states[0]? = some _ := rfl
  obtain ⟨rules, found, flat⟩ := BuildContext.exists_stands stand first
  obtain ⟨rest, states⟩ : ∃ rest, built.states = ⟨"root", rules⟩ :: rest := by
    cases all : built.states with
    | nil => simp [all] at found
    | cons first rest => exact ⟨rest, by simpa [all] using found⟩
  have root : built.rules "root" = rules := by
    simp [RuleTable.rules, RuleTable.state?, states]
  have spread : (definition.context []).Flattens rootEntries rules := flat.spread
  rw [root]
  refine spread.compiles ?_
  -- No inclusion is left among the entries.
  intro target member
  simp [rootEntries, comment, keywordRule, wordRule, relations, strings, barewords, operators,
    RuleDef.staying] at member

end Gsql

end RuleLexer
