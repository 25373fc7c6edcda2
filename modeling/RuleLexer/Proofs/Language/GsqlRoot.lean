import RuleLexer.Proofs.Language.GsqlKeywords
import RuleLexer.Proofs.Regex.Preference

/-!
# The root of GSQL

The rules of the root are tried in order, so what is put out at a place depends on all of them. Few
of them have a say around the signs of an edge: the one for edges and the two for operators, whose
programs are given here. Of the others it is enough to know which signs their matches cannot begin
with, and that none of them takes a closing parenthesis unless it begins like a comment or a string.

## Main result

`Gsql.exists_root`: the rules of the root, in order.
-/
namespace RuleLexer

open Text Regex

namespace Gsql

/-- The texts in the middle of a long operator. -/
def signs : List (List Char) :=
  [['-', '='], ['+', '='], ['*', '='], ['\\', '='], ['='], ['=', '='], ['=', '=', '='], ['+'],
   ['-'], ['*'], ['\\'], ['+', '='], ['>'], ['<']]

/-- A choice between texts. -/
def anyText : List (List Char) → Program
  | [] => .set .empty
  | [chars] => .literal chars
  | chars :: rest => .alt (.literal chars) (anyText rest)

/-- Every character but `-`, `/`, digits and `|`. -/
def beforeSign : CharSet :=
  (CharSet.ofRanges [(0x2D, 0x2D), (0x2F, 0x39), (0x7C, 0x7C)]).complement

/-- Every character but `/`, `>` and `|`. -/
def behindSign : CharSet :=
  (CharSet.ofRanges [(0x2F, 0x2F), (0x3E, 0x3E), (0x7C, 0x7C)]).complement

/-- A sign with a character on each side of it, or a dollar sign. -/
def longOperator : Program :=
  .alt (.literal ['$'])
    (.seq (.set beforeSign) (.seq ((anyText signs).group 1) (.set behindSign)))

/-- One of the signs that are operators by themselves. -/
def shortOperator : Program :=
  (Program.set (.ofRanges [(0x28, 0x2D), (0x2F, 0x2F), (0x3A, 0x3E), (0x7C, 0x7C)])).group 1

/-- A match begins with none of some signs, and only where it begins like a comment or a string it
takes a closing parenthesis. -/
def isConfined (others : List Char) (pattern : Pattern) : Bool :=
  pattern.program.mustConsume && pattern.program.startsIn (fun char => char ∉ others) &&
    (pattern.program.lacks ')' || pattern.program.startsIn fun char => char ∈ ['#', '/', '"'])

/-- A pattern is a program without a look-behind. -/
def isBare (program : Program) (pattern : Pattern) : Bool :=
  pattern.lookbehind.isNone && pattern.program = program

theorem isBare_iff {program : Program} {pattern : Pattern} :
    isBare program pattern ↔ pattern.lookbehind = none ∧ pattern.program = program := by
  simp [isBare]

/-- A rule makes a token of a confined match and stays in its state. -/
inductive Confined (others : List Char) : Rule → Prop
  | token {pattern : Pattern} (kind : TokenKind) (confined : isConfined others pattern) :
    Confined others ⟨pattern, .token kind, .stay⟩

/-- An entry is compiled to a confined rule. -/
def ConfinedEntry (others : List Char) (entry : RuleDef) : Prop :=
  ∃ source kind pattern, entry = .staying source (.token kind) ∧
    Pattern.compile options source = .ok pattern ∧ isConfined others pattern

theorem confined_of_compiles {others : List Char} {entries : List RuleDef} {rules : List Rule}
    (compiles : List.Forall₂ (definition.context []).Compiles entries rules)
    (confined : ∀ entry ∈ entries, ConfinedEntry others entry) :
    ∀ rule ∈ rules, Confined others rule := by
  induction compiles with
  | nil => simp
  | @cons entry rule _ _ first _ ih =>
    obtain ⟨head, tail⟩ := List.forall_mem_cons.mp confined
    refine List.forall_mem_cons.mpr ⟨?_, ih tail⟩
    obtain ⟨source, kind, pattern, rfl, compiled, confined⟩ := head
    cases first with
    | rule again =>
      cases compiled.symm.trans again
      exact .token kind confined

/-- The entries before the one for edges. -/
def opening : List RuleDef :=
  comment ++ [keywordRule, wordRule clauses .nameBuiltin, wordRule accumulators .nameBuiltin]

/-- The entries between the one for edges and those for operators. -/
def middle : List RuleDef :=
  relations.tail ++ wordRule functions .nameFunction :: (strings ++
    .staying "\\s+" (.token .whitespace) :: barewords)

set_option maxRecDepth 100000

theorem confinedEntry {others : List Char} {source : String} {chars : List Char} {kind : TokenKind}
    (spelled : source.toList = chars) (split : LookbehindSource.split? chars = none)
    (read : (Pattern.readExpr options chars).toOption.any fun expr =>
      isConfined others (.ofExpr source none expr)) :
    ConfinedEntry others (.staying source (.token kind)) := by
  obtain ⟨pattern, compiled, confined⟩ := Pattern.exists_compile spelled split read
  exact ⟨source, kind, pattern, rfl, compiled, confined⟩

theorem confined_opening : ∀ entry ∈ opening, ConfinedEntry ['-', ')'] entry := by
  have body : (Pattern.readExpr options keywordBody).toOption.any fun expr =>
      isConfined ['-', ')'] (.ofExpr keywordSource (some noDotBehind) expr) := by
    simp only [keywordBody, Vocabulary.sortedWords, keywords, List.map_cons, List.map_nil,
      String.reduceToList]
    decide +kernel
  obtain ⟨_, compiled, -, confined⟩ := exists_compile_keywords body
  intro entry member
  simp only [opening, comment, List.cons_append, List.nil_append, List.mem_cons, List.not_mem_nil,
    or_false] at member
  rcases member with rfl | rfl | rfl | rfl | rfl
  · exact confinedEntry rfl rfl (by decide +kernel)
  · exact confinedEntry rfl rfl (by decide +kernel)
  · exact ⟨_, _, _, rfl, compiled, confined⟩
  · exact confinedEntry (Vocabulary.toList_pattern _) rfl (by decide +kernel)
  · exact confinedEntry (Vocabulary.toList_pattern _) rfl (by decide +kernel)

theorem confined_middle : ∀ entry ∈ middle, ConfinedEntry [')'] entry := by
  have names : ConfinedEntry [')'] (wordRule functions .nameFunction) := by
    refine confinedEntry (Vocabulary.toList_pattern _) rfl ?_
    simp only [Vocabulary.sortedWords, functions, List.map_cons, List.map_nil, String.reduceToList]
    decide +kernel
  intro entry member
  simp only [middle, relations, strings, barewords, List.tail_cons, List.cons_append,
    List.nil_append, List.mem_cons, List.not_mem_nil, or_false] at member
  rcases member with rfl | rfl | rfl | rfl | rfl | rfl | rfl | rfl
  · exact confinedEntry rfl rfl (by decide +kernel)
  · exact confinedEntry rfl rfl (by decide +kernel)
  · exact names
  all_goals exact confinedEntry rfl rfl (by decide +kernel)

/-- The rules of the root, in order. -/
structure Root (built : RuleTable) where
  opening : List Rule
  edge : Pattern
  middle : List Rule
  long : Pattern
  short : Pattern
  rules : built.rules "root" = opening ++ ⟨edge, .byGroups edgeActions, .stay⟩ ::
    (middle ++ [⟨long, .token .operator, .stay⟩, ⟨short, .token .operator, .stay⟩])
  opening_confined : ∀ rule ∈ opening, Confined ['-', ')'] rule
  edge_bare : isBare edgeProgram edge
  edge_grouped : edge.groupCount = 3
  middle_confined : ∀ rule ∈ middle, Confined [')'] rule
  long_bare : isBare longOperator long
  short_bare : isBare shortOperator short

theorem exists_append_of_compiles {first second : List RuleDef} {rules : List Rule}
    (compiles : List.Forall₂ (definition.context []).Compiles (first ++ second) rules) :
    ∃ front back, rules = front ++ back ∧
      List.Forall₂ (definition.context []).Compiles first front ∧
      List.Forall₂ (definition.context []).Compiles second back :=
  ⟨rules.take first.length, rules.drop first.length, (List.take_append_drop ..).symm,
    (List.forall₂_take_append _ _ _ compiles.flip).flip,
    (List.forall₂_drop_append _ _ _ compiles.flip).flip⟩

theorem exists_root {built : RuleTable} (known : table = .ok built) : Nonempty (Root built) := by
  have compiles : List.Forall₂ (definition.context []).Compiles
      (opening ++ relations.head?.toList ++ (middle ++ operators)) _ := compiles_root known
  obtain ⟨front, back, rules, compiles, last⟩ := exists_append_of_compiles compiles
  obtain ⟨opening, _, rfl, first, edge⟩ := exists_append_of_compiles compiles
  obtain ⟨middle, _, rfl, between, signs⟩ := exists_append_of_compiles last
  obtain _ | ⟨⟨edge⟩, none⟩ := edge
  obtain rfl := List.forall₂_nil_left_iff.mp none
  obtain _ | ⟨⟨long⟩, signs⟩ := signs
  obtain _ | ⟨⟨short⟩, none⟩ := signs
  obtain rfl := List.forall₂_nil_left_iff.mp none
  have grouped := of_compiled (fun pattern => isBare edgeProgram pattern && pattern.groupCount = 3)
    edge (Pattern.exists_compile rfl rfl (by decide +kernel))
  rw [Bool.and_eq_true, decide_eq_true_eq] at grouped
  exact ⟨{
    opening, middle
    edge := _
    long := _
    short := _
    rules := rules.trans (List.append_assoc ..)
    opening_confined := confined_of_compiles first confined_opening
    edge_bare := grouped.1
    edge_grouped := grouped.2
    middle_confined := confined_of_compiles between confined_middle
    long_bare := of_compiled _ long (Pattern.exists_compile rfl rfl (by decide +kernel))
    short_bare := of_compiled _ short (Pattern.exists_compile rfl rfl (by decide +kernel)) }⟩

/-! ### What the rules match -/

section Matches

variable {before after front back piece others : List Char} {char : Char} {rule : Rule}
  {pattern : Pattern} {found : Match}

theorem Confined.exists_token (confined : Confined others rule) :
    ∃ pattern kind, rule = ⟨pattern, .token kind, .stay⟩ := by
  cases confined
  exact ⟨_, _, rfl⟩

/-- A rule that does not begin with a sign does not match there. -/
theorem Confined.silent (confined : Confined others rule) (member : char ∈ others) :
    rule.pattern.matchHere? before (char :: after) = none := by
  obtain ⟨kind, confined⟩ := confined
  simp only [isConfined, Bool.and_eq_true] at confined
  obtain ⟨⟨consumes, starts⟩, -⟩ := confined
  refine Option.eq_none_iff_forall_not_mem.mpr fun found matched => ?_
  obtain ⟨-, front, back, later, split, -, way, -⟩ := Pattern.exists_matches_of_matchHere? matched
  obtain ⟨first, front, rfl⟩ := List.exists_cons_of_ne_nil (way.ne_nil_of_mustConsume consumes)
  obtain ⟨rfl, -⟩ := List.cons.inj split
  have outside := way.head?_of_startsIn starts char rfl
  simp [member] at outside

/-- A rule takes a closing parenthesis only where it begins like a comment or a string. -/
theorem Confined.keeps (confined : Confined others rule)
    (matched : rule.pattern.matchHere? before (char :: after) = some found)
    (other : char ∉ ['#', '/', '"']) :
    ∃ piece back, char :: after = piece ++ back ∧ byteLength piece = found.stop ∧ piece ≠ [] ∧
      ')' ∉ piece := by
  obtain ⟨kind, confined⟩ := confined
  simp only [isConfined, Bool.and_eq_true, Bool.or_eq_true] at confined
  obtain ⟨⟨consumes, -⟩, lacks⟩ := confined
  obtain ⟨-, front, back, later, split, size, way, -⟩ :=
    Pattern.exists_matches_of_matchHere? matched
  have nonempty := way.ne_nil_of_mustConsume consumes
  refine ⟨front, back, split, size, nonempty, ?_⟩
  rcases lacks with lacks | starts
  · exact way.notMem_of_lacks lacks
  · obtain ⟨first, front, rfl⟩ := List.exists_cons_of_ne_nil nonempty
    obtain ⟨rfl, -⟩ := List.cons.inj split
    exact absurd (of_decide_eq_true (way.head?_of_startsIn starts char rfl)) other

theorem exists_takes_of_bare {program : Program} (bare : isBare program pattern)
    (matched : pattern.matchHere? before after = some found) :
    ∃ piece back, after = piece ++ back ∧ byteLength piece = found.stop ∧ program.Takes piece := by
  obtain ⟨-, front, back, later, split, size, way, -⟩ :=
    Pattern.exists_matches_of_matchHere? matched
  exact ⟨front, back, split, size, _, _, _, _, _, (isBare_iff.mp bare).2 ▸ way⟩

/-- A pattern matches where its program goes through. -/
theorem exists_match_of_bare {program : Program} {later : Groups} (bare : isBare program pattern)
    (traceable : program.traceable)
    (way : program.Matches before.head? 0 .none front back later) :
    ∃ found, pattern.matchHere? before (front ++ back) = some found := by
  obtain ⟨free, rfl⟩ := isBare_iff.mp bare
  exact Pattern.exists_matchHere?_of_matches (by simp [free]) way traceable

theorem takes_anyText {texts : List (List Char)} (takes : (anyText texts).Takes piece) :
    piece ∈ texts := by
  fun_induction anyText texts with
  | case1 =>
    obtain ⟨char, member, -⟩ := takes.set
    cases member
  | case2 => exact List.mem_singleton.mpr takes.literal
  | case3 _ _ _ ih =>
    rcases takes.alt with takes | takes
    · exact List.mem_cons.mpr (.inl takes.literal)
    · exact List.mem_cons_of_mem _ (ih takes)

theorem matches_anyText {texts : List (List Char)} {previous : Option Char} {offset : Nat}
    {groups : Groups} (member : piece ∈ texts) :
    (anyText texts).Matches previous offset groups piece back groups := by
  fun_induction anyText texts with
  | case1 => cases member
  | case2 =>
    obtain rfl := List.mem_singleton.mp member
    exact .literal
  | case3 _ _ _ ih =>
    rcases List.mem_cons.mp member with rfl | member
    · exact .preferred .literal
    · exact .other (ih member)

theorem takes_longOperator (takes : longOperator.Takes piece) :
    piece = ['$'] ∨ ∃ first sign last, piece = first :: (sign ++ [last]) ∧ sign ∈ signs := by
  rcases takes.alt with takes | takes
  · exact .inl takes.literal
  · obtain ⟨_, _, rfl, ahead, takes⟩ := takes.seq
    obtain ⟨sign, _, rfl, between, behind⟩ := takes.seq
    obtain ⟨first, -, rfl⟩ := ahead.set
    obtain ⟨last, -, rfl⟩ := behind.set
    exact .inr ⟨first, sign, last, rfl, takes_anyText between.group⟩

/-- Behind its first character a long operator has a sign. -/
theorem long_silent (bare : isBare longOperator pattern) (other : char ≠ '$')
    (unsigned : ∀ sign ∈ signs, sign.head? ≠ after.head?) :
    pattern.matchHere? before (char :: after) = none := by
  refine Option.eq_none_iff_forall_not_mem.mpr fun found matched => ?_
  obtain ⟨piece, back, split, -, takes⟩ := exists_takes_of_bare bare matched
  rcases takes_longOperator takes with rfl | ⟨first, sign, last, rfl, member⟩
  · exact other (List.cons.inj split).1
  · obtain ⟨-, rest⟩ := List.cons.inj split
    have nonempty : sign ≠ [] := by
      rintro rfl
      exact absurd member (by decide)
    refine unsigned sign member ?_
    rw [rest, List.append_eq, List.append_assoc, List.head?_append_of_ne_nil _ nonempty]

/-- Between a closing parenthesis and a blank, a dash is the whole sign of a long operator. -/
theorem eq_of_takes_longOperator {blank : Char} {rest : List Char} (other : blank ≠ '=')
    (takes : longOperator.Takes piece)
    (split : ')' :: '-' :: blank :: back = piece ++ rest) : piece = [')', '-', blank] := by
  rcases takes_longOperator takes with rfl | ⟨first, sign, last, rfl, member⟩
  · cases (List.cons.inj split).1
  · obtain ⟨rfl, tail⟩ := List.cons.inj split
    have tail : '-' :: blank :: back = sign ++ last :: rest := by simpa using tail
    have dashes : ∀ sign ∈ signs, sign ≠ [] ∧
        (sign.head? = some '-' → sign = ['-'] ∨ sign = ['-', '=']) := by decide
    obtain ⟨nonempty, dashes⟩ := dashes sign member
    have dash : sign.head? = some '-' := by
      rw [← List.head?_append_of_ne_nil _ nonempty, ← tail]
      rfl
    rcases dashes dash with rfl | rfl
    · cases tail
      rfl
    · exact absurd (List.cons.inj (List.cons.inj tail).2).1 other

/-- Before a blank a long operator takes the closing parenthesis, the dash and the blank. -/
theorem exists_match_long (before back : List Char) {blank : Char}
    (bare : isBare longOperator pattern) (space : Unicode.Shorthand.space.contains blank) :
    ∃ found, pattern.matchHere? before (')' :: '-' :: blank :: back) = some found ∧
      found.stop = byteLength [')', '-', blank] := by
  have unequal : blank ≠ '=' := by
    rintro rfl
    exact absurd space (by decide)
  have behind : behindSign.contains blank := CharSet.of_all (by decide) space
  obtain ⟨later, way⟩ : ∃ later,
      longOperator.Matches before.head? 0 .none [')', '-', blank] back later :=
    ⟨_, .other (Program.matches_seq_iff.mpr ⟨[')'], _, _, rfl, .set (by decide),
      Program.matches_seq_iff.mpr ⟨['-'], _, _, rfl, .inGroup (matches_anyText (by decide)),
        .set behind⟩⟩)⟩
  obtain ⟨found, matched⟩ := exists_match_of_bare bare (by decide) way
  obtain ⟨piece, rest, split, size, takes⟩ := exists_takes_of_bare bare matched
  rw [eq_of_takes_longOperator unequal takes split] at size
  exact ⟨found, matched, size.symm⟩

end Matches

end Gsql

end RuleLexer
