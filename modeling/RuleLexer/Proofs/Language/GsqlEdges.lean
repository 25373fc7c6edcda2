import RuleLexer.Proofs.Language.GsqlRoot

/-!
# Edges of GSQL

An edge such as `-(Follows:e)-` is matched as a whole, and what stands in its parentheses is
tokenized again. Its pattern has room for one character only between the colon and the parenthesis.
If the name behind the colon is longer, the pattern does not match, and nothing else takes the
parenthesis by itself: a long operator is a sign with any two characters around it, so it takes the
parenthesis, the dash and the blank behind it together.

In an edge each of the signs stands once, so where a match is cut into its groups can be told from
the text. In front of the closing parenthesis no rule reaches beyond it, so a run always comes to
it, wherever the tokens of the names end.

## Main results

* `Gsql.parts_of_edgeText`: what a match of an edge is made of.
* `Gsql.Root.exists_earlier`: a run comes to the closing parenthesis.
* `Gsql.edge_in_place_iff`: which edges are taken apart into their signs and what stands between.
* `Gsql.exists_edge_not_in_place`: one that is not.
-/
namespace RuleLexer

open Text Regex

namespace Gsql

/-! ### Texts -/

/-- A letter and any number of letters, digits and underscores, all of them in ASCII. -/
def isIdentifier : List Char → Bool
  | [] => false
  | first :: rest => first.isAlpha && rest.all fun char => char.isAlphanum || char = '_'

/-- Two names with a colon between them, in parentheses. -/
def parenthesized (name label : List Char) : List Char :=
  '(' :: (name ++ ':' :: (label ++ [')']))

/-- An edge and the text behind it. -/
def edgeText (name label rest : List Char) : List Char :=
  '-' :: (parenthesized name label ++ '-' :: rest)

/-- The offset of the second dash of an edge. -/
def secondDash (name label : List Char) : Nat := 1 + byteLength (parenthesized name label)

variable {name label rest : List Char}

theorem notMem_of_isIdentifier {chars : List Char} (identifier : isIdentifier chars) {char : Char}
    (other : ¬(char.isAlphanum || char = '_')) : char ∉ chars := by
  cases chars with
  | nil => cases identifier
  | cons first rest =>
    rw [isIdentifier, Bool.and_eq_true, List.all_eq_true] at identifier
    rintro member
    rcases List.mem_cons.mp member with rfl | member
    · simp [Char.isAlphanum, identifier.1] at other
    · exact other (identifier.2 _ member)

theorem notMem_cons_of_space {blank : Char}
    (space : Unicode.Shorthand.space.contains blank)
    (free : ')' ∉ rest) : ')' ∉ blank :: rest := by
  refine List.not_mem_cons_of_ne_of_not_mem ?_ free
  rintro rfl
  exact absurd space (by decide)

/-- The second dash stands right behind the closing parenthesis. -/
theorem secondDash_eq (name label : List Char) :
    secondDash name label = byteLength ('-' :: '(' :: (name ++ ':' :: label)) + 1 := by
  have dash : '-'.utf8Size = 1 := rfl
  have parenthesis : ')'.utf8Size = 1 := rfl
  simp only [secondDash, parenthesized, byteLength, byteLength_append]
  omega

theorem contains_word_of_isAlpha {char : Char} (letter : char.isAlpha) :
    Unicode.Shorthand.word.contains char := by
  have letters : (⟨[('A'.toNat, 'Z'.toNat), ('a'.toNat, 'z'.toNat)]⟩ : CharSet).contains char := by
    have value : char.val.toNat = char.toNat := rfl
    have bounds : decide ('A'.val ≤ char.val ∧ char.val ≤ 'Z'.val) ||
        (decide ('a'.val ≤ char.val) && decide (char.val ≤ 'z'.val)) := letter
    simp only [Bool.or_eq_true, Bool.and_eq_true, decide_eq_true_eq, UInt32.le_iff_toNat_le,
      value] at bounds
    simp only [CharSet.contains, CharSet.containsValue, CharSet.inRanges, Char.reduceToNat]
    grind
  exact CharSet.of_all (by decide) letters

/-! ### Matches of edges -/

section Edges

variable {piece : List Char} {chars : CharSet} {pattern : Pattern} {before : List Char}
  {found : Match}

theorem takes_oneOrNone (takes : (oneOrNone chars).Takes piece) :
    piece.length ≤ 1 ∧ ∀ char ∈ piece, chars.contains char := by
  rcases takes.alt with takes | takes
  · obtain ⟨near, far, rfl, takes, none⟩ := takes.seq
    obtain ⟨char, member, rfl⟩ := takes.set
    obtain rfl := none.done
    simpa using member
  · obtain rfl := takes.done
    simp

theorem takes_firstDash (takes : firstDash.Takes piece) : ∃ blank, piece = '-' :: blank := by
  obtain ⟨_, blank, rfl, dash, -⟩ := takes.seq
  obtain rfl := dash.literal
  exact ⟨blank, rfl⟩

theorem takes_inParentheses (takes : inParentheses.Takes piece) :
    ∃ inside word, piece = parenthesized inside word ∧ word.length ≤ 1 := by
  obtain ⟨_, _, rfl, opens, takes⟩ := takes.seq
  obtain ⟨inside, _, rfl, -, takes⟩ := takes.seq
  obtain ⟨_, _, rfl, colon, takes⟩ := takes.seq
  obtain ⟨word, _, rfl, short, closes⟩ := takes.seq
  obtain rfl := opens.literal
  obtain rfl := colon.literal
  obtain rfl := closes.literal
  exact ⟨inside, word, rfl, (takes_oneOrNone short).1⟩

theorem takes_lastDash (takes : lastDash.Takes piece) :
    ∃ blank, piece = blank ++ ['-'] ∧ ∀ char ∈ blank, Unicode.Shorthand.space.contains char := by
  obtain ⟨blank, _, rfl, spaces, dash⟩ := takes.seq
  obtain rfl := dash.literal
  exact ⟨blank, rfl, (takes_oneOrNone spaces).2⟩

/-- Each of the signs stands in an edge only once before the second dash, so a text that begins with
an edge is cut in one way. -/
theorem edgeText_eq {blank inside word back : List Char} (isName : isIdentifier name)
    (isLabel : isIdentifier label) (free : ')' ∉ rest)
    (split : edgeText name label rest = '-' :: blank ++ (parenthesized inside word ++ back)) :
    blank = [] ∧ inside = name ∧ word = label ∧ back = '-' :: rest := by
  have closing : ('-' :: '(' :: (name ++ ':' :: label)) ++ ')' :: ('-' :: rest) =
      ('-' :: blank ++ '(' :: (inside ++ ':' :: word)) ++ ')' :: back := by
    simpa [edgeText, parenthesized] using split
  obtain ⟨front, -, behind⟩ := (List.append_cons_inj_of_notMem
    (by simp [notMem_of_isIdentifier, isName, isLabel]) (by simp [free])).mp closing
  have colon : ('-' :: '(' :: name) ++ ':' :: label =
      ('-' :: blank ++ '(' :: inside) ++ ':' :: word := by simpa using front
  obtain ⟨opening, -, sameLabel⟩ := (List.append_cons_inj_of_notMem
    (by simp [notMem_of_isIdentifier, isName]) (notMem_of_isIdentifier isLabel (by decide))).mp
      colon
  have opening : ['-'] ++ '(' :: name = '-' :: blank ++ '(' :: inside := by simpa using opening
  obtain ⟨dash, -, sameName⟩ := (List.append_cons_inj_of_notMem
    (by simp) (notMem_of_isIdentifier isName (by decide))).mp opening
  exact ⟨(List.cons.inj dash).2.symm, sameName.symm, sameLabel.symm, behind.symm⟩

/-- A match of the pattern of edges at an edge has one character behind the colon and takes just the
edge. -/
theorem parts_of_edgeText (edge : pattern.program = edgeProgram) (grouped : pattern.groupCount = 3)
    (isName : isIdentifier name) (isLabel : isIdentifier label) (free : ')' ∉ rest)
    (matched : pattern.matchHere? before (edgeText name label rest) = some found) :
    label.length = 1 ∧ found.stop = secondDash name label + 1 ∧
      Part.ofMatch (.byGroups edgeActions) found =
        [⟨0, 1, .kind .operator⟩, ⟨1, secondDash name label, .delegate ⟨.this, none⟩⟩,
          ⟨secondDash name label, secondDash name label + 1, .kind .operator⟩] := by
  obtain ⟨_, _, _, back, split, dash, between, otherDash, stop, parts⟩ :=
    exists_pieces_of_edge edge grouped matched
  obtain ⟨blank, rfl⟩ := takes_firstDash dash
  obtain ⟨inside, word, rfl, short⟩ := takes_inParentheses between
  obtain ⟨otherBlank, rfl, spaces⟩ := takes_lastDash otherDash
  obtain ⟨rfl, rfl, rfl, behind⟩ := edgeText_eq isName isLabel free split
  obtain rfl : otherBlank = [] := by
    cases otherBlank with
    | nil => rfl
    | cons char rest =>
      -- The second dash is no blank.
      obtain ⟨rfl, -⟩ := List.cons.inj behind
      exact absurd (spaces _ List.mem_cons_self) (by decide)
  have size : found.stop = secondDash inside word + 1 := stop.symm
  rw [size] at parts
  refine ⟨Nat.le_antisymm short (List.length_pos_iff.mpr ?_), size, parts⟩
  rintro rfl
  cases isLabel

/-- The program of edges goes through an edge with one character behind the colon. -/
theorem exists_matches_edge {char : Char} (isName : isIdentifier name)
    (isLabel : isIdentifier [char]) (previous : Option Char) :
    ∃ later, edgeProgram.Matches previous 0 .none
      (['-'] ++ (parenthesized name [char] ++ ['-'])) rest later := by
  have inLine : ∀ other ∈ name, anyInLine.contains other := by
    intro other member
    refine contains_anyInLine ?_
    rintro rfl
    exact notMem_of_isIdentifier isName (by decide) member
  have word : Unicode.Shorthand.word.contains char :=
    contains_word_of_isAlpha ((Bool.and_eq_true _ _).mp isLabel).1
  have dash : ∀ previous offset groups back,
      firstDash.Matches previous offset groups ['-'] back groups := fun _ _ _ _ =>
    Program.matches_seq_iff.mpr ⟨['-'], [], _, rfl, .literal, .other .done⟩
  have otherDash : ∀ previous offset groups back,
      lastDash.Matches previous offset groups ['-'] back groups := fun _ _ _ _ =>
    Program.matches_seq_iff.mpr ⟨[], ['-'], _, rfl, .other .done, .literal⟩
  have between : ∀ previous offset groups back,
      inParentheses.Matches previous offset groups (parenthesized name [char]) back groups := by
    intro previous offset groups back
    refine Program.matches_seq_iff.mpr ⟨['('], _, _, rfl, .literal, ?_⟩
    refine Program.matches_seq_iff.mpr ⟨name, _, _, rfl, Program.matches_greed inLine, ?_⟩
    refine Program.matches_seq_iff.mpr ⟨[':'], _, _, rfl, .literal, ?_⟩
    refine Program.matches_seq_iff.mpr ⟨[char], _, _, rfl, .preferred ?_, .literal⟩
    exact Program.matches_seq_iff.mpr ⟨[char], [], _, rfl, .set word, .done⟩
  exact ⟨_, Program.matches_seq_iff.mpr ⟨['-'], _, _, rfl, .inGroup (dash ..),
    Program.matches_seq_iff.mpr ⟨_, ['-'], _, rfl, .inGroup (between ..),
      .inGroup (otherDash ..)⟩⟩⟩

/-- At an edge with one character behind the colon the pattern of edges matches. -/
theorem exists_match_edgeText (before rest : List Char) {char : Char}
    (bare : isBare edgeProgram pattern) (isName : isIdentifier name)
    (isLabel : isIdentifier [char]) :
    ∃ found, pattern.matchHere? before (edgeText name [char] rest) = some found := by
  have split : edgeText name [char] rest =
      ['-'] ++ (parenthesized name [char] ++ ['-']) ++ rest := by
    simp [edgeText]
  obtain ⟨later, way⟩ := exists_matches_edge isName isLabel before.head?
  rw [split]
  exact exists_match_of_bare bare (by decide) way

end Edges

/-! ### What rules match in an edge -/

/-- A character of a name, an opening parenthesis or a colon. -/
def isPlain (char : Char) : Bool := char.isAlphanum || char ∈ ['_', '(', ':']

theorem ne_of_isPlain {char sign : Char} (plain : isPlain char) (other : ¬isPlain sign) :
    char ≠ sign := by
  rintro rfl
  exact other plain

theorem isPlain_of_isIdentifier {chars : List Char} (identifier : isIdentifier chars) :
    ∀ char ∈ chars, isPlain char := by
  intro char member
  by_contra other
  refine notMem_of_isIdentifier identifier (fun among => other ?_) member
  rcases (Bool.or_eq_true _ _).mp among with among | among
  · simp [isPlain, among]
  · simp [isPlain, of_decide_eq_true among]

theorem exists_of_notMem {piece rest front back : List Char} {sign : Char}
    (split : front ++ sign :: back = piece ++ rest) (other : sign ∉ piece) :
    ∃ more, front = piece ++ more := by
  rcases List.append_eq_append_iff.mp split with ⟨between, rfl, tail⟩ | ⟨between, whole, -⟩
  · cases between with
    | nil => exact ⟨[], by simp⟩
    | cons first between =>
      obtain ⟨rfl, -⟩ := List.cons.inj tail
      simp at other
  · exact ⟨between, whole⟩

/-- What a rule of the root matches in front of the closing parenthesis of an edge ends in front of
it as well, unless it is the edge itself. -/
theorem Root.exists_piece {built : RuleTable} (root : Root built) {before tail back : List Char}
    {char : Char} (start : char = '-' ∨ isPlain char) (plain : ∀ other ∈ tail, isPlain other)
    (free : root.edge.matchHere? before (char :: (tail ++ ')' :: back)) = none) {rule : Rule}
    {found : Match} (member : rule ∈ built.rules "root")
    (matched : rule.pattern.matchHere? before (char :: (tail ++ ')' :: back)) = some found) :
    (∃ pattern kind, rule = ⟨pattern, .token kind, .stay⟩) ∧
      ∃ piece more, char :: tail = piece ++ more ∧ piece ≠ [] ∧ byteLength piece = found.stop := by
  have other : ∀ sign ∈ ['#', '/', '"', '$', ')'], char ≠ sign := by
    intro sign among
    rcases start with rfl | start
    · rintro rfl
      simp at among
    · refine ne_of_isPlain start ?_
      simp only [List.mem_cons, List.not_mem_nil, or_false] at among
      rcases among with rfl | rfl | rfl | rfl | rfl <;> decide
  suffices kept : (∃ pattern kind, rule = ⟨pattern, .token kind, .stay⟩) ∧
      ∃ piece rest, char :: (tail ++ ')' :: back) = piece ++ rest ∧
        byteLength piece = found.stop ∧ piece ≠ [] ∧ ')' ∉ piece by
    obtain ⟨token, piece, rest, split, size, nonempty, keeps⟩ := kept
    have split : (char :: tail) ++ ')' :: back = piece ++ rest := split
    obtain ⟨more, front⟩ := exists_of_notMem split keeps
    exact ⟨token, piece, more, front, nonempty, size⟩
  rw [root.rules] at member
  simp only [List.mem_append, List.mem_cons, List.not_mem_nil, or_false] at member
  rcases member with member | rfl | member | rfl | rfl
  · have confined := root.opening_confined rule member
    exact ⟨confined.exists_token, confined.keeps matched (by simp [other])⟩
  · rw [free] at matched
    cases matched
  · have confined := root.middle_confined rule member
    exact ⟨confined.exists_token, confined.keeps matched (by simp [other])⟩
  · rw [long_silent root.long_bare (other _ (by simp)) ?_] at matched
    · cases matched
    · intro sign among heads
      have signed : ∀ sign ∈ signs, sign.head?.all fun first => first ≠ ')' ∧ ¬isPlain first := by
        decide
      have apart := signed sign among
      rw [heads] at apart
      cases tail with
      | nil => simp at apart
      | cons next tail => simp [plain next List.mem_cons_self] at apart
  · obtain ⟨piece, rest, split, size, takes⟩ := exists_takes_of_bare root.short_bare matched
    obtain ⟨sign, -, rfl⟩ := takes.group.set
    obtain ⟨rfl, -⟩ := List.cons.inj split
    exact ⟨⟨_, _, rfl⟩, _, _, split, size, by simp, by simpa using (other ')' (by simp)).symm⟩

/-! ### Runs in front of the closing parenthesis -/

section Runs

variable {built : RuleTable} {before front back : List Char} {cursor : Nat}

/-- An edge begins with a dash. -/
theorem edge_silent {pattern : Pattern} {char : Char} (bare : isBare edgeProgram pattern)
    (other : char ≠ '-') : pattern.matchHere? before (char :: back) = none := by
  refine Option.eq_none_iff_forall_not_mem.mpr fun found matched => ?_
  obtain ⟨_, _, split, -, takes⟩ := exists_takes_of_bare bare matched
  obtain ⟨_, _, rfl, dash, -⟩ := takes.seq
  obtain ⟨_, rfl⟩ := takes_firstDash dash.group
  exact other (List.cons.inj split).1

theorem Root.exists_token (root : Root built) (cursor : Nat) {tail : List Char} {char : Char}
    (start : char = '-' ∨ isPlain char) (plain : ∀ other ∈ tail, isPlain other)
    (free : root.edge.matchHere? before (char :: (tail ++ ')' :: back)) = none) :
    ∃ token piece more, char :: tail = piece ++ more ∧ piece ≠ [] ∧
      ((enginePast built before (char :: (tail ++ ')' :: back)) cursor).run []).1 =
        token :: ((enginePast built (piece.reverse ++ before) (more ++ ')' :: back)
          (cursor + byteLength piece)).run []).1 := by
  cases fires : (enginePast built before (char :: (tail ++ ')' :: back)) cursor).firing? with
  | some firing =>
    obtain ⟨rule, found⟩ := firing
    obtain ⟨member, matched, -⟩ := Engine.firing?_eq_some fires
    obtain ⟨⟨pattern, kind, rfl⟩, piece, more, split, nonempty, size⟩ :=
      root.exists_piece start plain free member matched
    have whole : char :: (tail ++ ')' :: back) = piece ++ (more ++ ')' :: back) := by
      rw [← List.append_assoc, ← split]
      rfl
    have run := Engine.run_of_staying [] fires whole size (size ▸ byteLength_pos nonempty)
    rw [← size] at run
    exact ⟨_, piece, more, split, nonempty, run⟩
  | none =>
    have line : char ≠ '\n' := by
      rintro rfl
      exact absurd start (by decide)
    exact ⟨_, [char], tail, rfl, List.cons_ne_nil _ _, Engine.run_of_silent [] fires rfl line⟩

/-- No rule takes more than what stands in front of the closing parenthesis, so the run comes to
it. -/
theorem Root.exists_earlier (root : Root built) (plain : ∀ char ∈ front, isPlain char) :
    ∃ earlier, ((enginePast built before (front ++ ')' :: back) cursor).run []).1 =
      earlier ++ ((enginePast built (front.reverse ++ before) (')' :: back)
        (cursor + byteLength front)).run []).1 := by
  induction size : front.length using Nat.strong_induction_on
    generalizing before front cursor with
  | _ length ih =>
    subst size
    cases front with
    | nil => exact ⟨[], rfl⟩
    | cons char tail =>
      obtain ⟨first, others⟩ := List.forall_mem_cons.mp plain
      obtain ⟨token, piece, more, split, nonempty, run⟩ := root.exists_token cursor
        (.inr first) others (edge_silent root.edge_bare (ne_of_isPlain first (by decide)))
      have less : more.length < (char :: tail).length := by
        have := List.length_pos_iff.mpr nonempty
        rw [split, List.length_append]
        omega
      have later : ∀ char ∈ more, isPlain char := fun char member =>
        plain char (split ▸ List.mem_append_right _ member)
      obtain ⟨earlier, rest⟩ := ih _ less later rfl
      refine ⟨token :: earlier, run.trans ?_⟩
      rw [rest, split]
      simp [byteLength_append, Nat.add_assoc]

/-- A dash in front makes no difference where it does not begin an edge. -/
theorem Root.exists_earlier_of_dash (root : Root built) (plain : ∀ char ∈ front, isPlain char)
    (free : root.edge.matchHere? [] ('-' :: (front ++ ')' :: back)) = none) :
    ∃ earlier before, ((enginePast built [] ('-' :: (front ++ ')' :: back)) 0).run []).1 =
      earlier ++
        ((enginePast built before (')' :: back) (byteLength ('-' :: front))).run []).1 := by
  obtain ⟨token, piece, more, split, nonempty, run⟩ :=
    root.exists_token 0 (.inl rfl) plain free
  obtain ⟨_, piece, rfl⟩ := List.exists_cons_of_ne_nil nonempty
  have inside : front = piece ++ more := (List.cons.inj split).2
  obtain ⟨earlier, rest⟩ := root.exists_earlier fun char member =>
    plain char (inside ▸ List.mem_append_right piece member)
  rw [run, rest, split, byteLength_append, Nat.zero_add]
  exact ⟨token :: earlier, _, rfl⟩

/-- Before a dash and a blank, the closing parenthesis begins a long operator. -/
theorem Root.exists_later_of_blank (root : Root built) {blank : Char}
    (space : Unicode.Shorthand.space.contains blank) :
    ∃ later, ((enginePast built before (')' :: '-' :: blank :: back) cursor).run []).1 =
      ⟨.operator, cursor, cursor + (2 + blank.utf8Size)⟩ :: later := by
  obtain ⟨found, matched, size⟩ :=
    exists_match_long before back root.long_bare space
  have stop : found.stop = 2 + blank.utf8Size := by
    rw [size]
    exact (Nat.add_assoc 1 1 blank.utf8Size).symm
  have rules : built.rules "root" = (root.opening ++ ⟨root.edge, .byGroups edgeActions, .stay⟩ ::
      root.middle) ++ ⟨root.long, .token .operator, .stay⟩ ::
        [⟨root.short, .token .operator, .stay⟩] := by
    simpa using root.rules
  refine ⟨_, stop ▸ run_enginePast [')', '-', blank] back _ rules ?_ matched size.symm (by omega)⟩
  intro other member
  simp only [List.mem_append, List.mem_cons] at member
  rcases member with member | rfl | member
  · exact (root.opening_confined other member).silent (by simp)
  · exact edge_silent root.edge_bare (by decide)
  · exact (root.middle_confined other member).silent (by simp)

end Runs

/-! ### What stands in parentheses -/

/-- Where no dash is left, nothing is handed on. -/
theorem quiet_of_dashless {engine : Engine} (known : table = .ok engine.table)
    (dashless : '-' ∉ engine.after) : engine.Quiet := by
  intro rule found fires part member delegate named
  obtain ⟨among, matched, -⟩ := Engine.firing?_eq_some fires
  have treats := treats_of_mem_rules known among
  generalize rule.action = action at treats member
  cases treats with
  | spares | cuts | keyword =>
    obtain ⟨-, rfl⟩ := Part.mem_nonempty_iff.mp member
    cases named
  | edge edge grouped =>
    obtain ⟨_, _, _, _, split, dash, -⟩ := exists_pieces_of_edge edge grouped matched
    obtain ⟨_, rfl⟩ := takes_firstDash dash
    simp [split] at dashless

theorem run_parenthesized {built : RuleTable} (known : table = .ok built)
    (isName : isIdentifier name) (isLabel : isIdentifier label) (depth : Nat) :
    ((Engine.start built (parenthesized name label) "root" depth).run []).1 =
      ((Engine.start built (parenthesized name label) "root" 0).run []).1 := by
  change ((Engine.atDepth depth (.start built _ "root" 0)).run []).1 = _
  refine Engine.run_atDepth (fun count later steps => ?_) depth
  obtain ⟨front, -, split, -⟩ := steps.exists_earlier
  refine quiet_of_dashless (steps.unchanged.1 ▸ known) fun member => ?_
  have split : parenthesized name label = front ++ later.after := split
  have dashless : '-' ∉ parenthesized name label := by
    simp [parenthesized, notMem_of_isIdentifier, isName, isLabel]
  exact dashless (split ▸ List.mem_append_right front member)

/-! ### Edges -/

section Edges

variable {built : RuleTable} {blank : Char}

theorem tokens_eq (built : RuleTable) (text : List Char) :
    (built.tokenize [] text).drain.1 = ((Engine.start built text "root" 0).run []).1 :=
  (Tokens.drain_start [] built text "root").1

theorem maxDelegateDepth_pos (known : table = .ok built) :
    0 < built.options.run.maxDelegateDepth := by
  obtain ⟨-, -, -, same, -⟩ := TableDef.build_eq_ok_iff.mp known
  rw [same]
  decide

/-- What an edge hands on is the text in parentheses. -/
theorem delegated_edgeText (built : RuleTable) (name label rest : List Char) :
    (Engine.start built (edgeText name label rest) "root" 0).delegated [] ⟨.this, none⟩ 1
        (secondDash name label) =
      .start built (parenthesized name label) "root" 1 := by
  have cut : slice? (edgeText name label rest) 1 (secondDash name label) =
      some (parenthesized name label) :=
    slice?_eq_some_iff.mpr ⟨['-'], '-' :: rest, rfl, rfl, rfl⟩
  have covered : (Engine.start built (edgeText name label rest) "root" 0).textOver 1
      (secondDash name label) = parenthesized name label := by
    rw [Engine.textOver, Engine.start, cut, Option.getD_some]
  rw [Engine.delegated, covered]
  rfl

/-- If one character stands behind the colon, the edge is taken apart as it should be. -/
theorem Root.exists_later (root : Root built) (known : table = .ok built)
    (isName : isIdentifier name) (isLabel : isIdentifier label) (free : ')' ∉ rest)
    (single : label.length = 1) :
    ∃ later, (built.tokenize [] (edgeText name label rest)).drain.1 =
      ⟨.operator, 0, 1⟩ ::
        ((built.tokenize [] (parenthesized name label)).drain.1.map (Token.shift 1) ++
          ⟨.operator, secondDash name label, secondDash name label + 1⟩ :: later) := by
  obtain ⟨char, rfl⟩ := List.length_eq_one_iff.mp single
  obtain ⟨found, matched⟩ := exists_match_edgeText [] rest root.edge_bare isName isLabel
  obtain ⟨-, size, parts⟩ := parts_of_edgeText (isBare_iff.mp root.edge_bare).2 root.edge_grouped
    isName isLabel free matched
  let engine := Engine.start built (edgeText name [char] rest) "root" 0
  have fires : engine.firing? = some (⟨root.edge, .byGroups edgeActions, .stay⟩, found) :=
    Engine.firing?_of_rules root.rules
      (fun rule member => (root.opening_confined rule member).silent (by simp)) matched (by omega)
  have items : (engine.step []).1 = [.token ⟨.operator, 0, 1⟩,
      .nested 1 (.start built (parenthesized name [char]) "root" 1),
      .token ⟨.operator, secondDash name [char], secondDash name [char] + 1⟩] := by
    have begins : engine.cursor = 0 := rfl
    have allowed : engine.depth < engine.table.options.run.maxDelegateDepth :=
      maxDelegateDepth_pos known
    have inner : engine.delegated [] ⟨.this, none⟩ 1 (secondDash name [char]) = _ :=
      delegated_edgeText built name [char] rest
    simp [Engine.step, fires, Engine.fire, parts, Engine.itemOf, Engine.tokenOver, begins, allowed,
      inner]
  have nonempty : engine.after ≠ [] := List.cons_ne_nil _ _
  refine ⟨((engine.step []).2.run []).1, ?_⟩
  rw [tokens_eq, tokens_eq, Engine.run_of_nonempty nonempty, items]
  simp [Item.tokens, run_parenthesized known isName isLabel 1]

/-- If more than one character stands behind the colon, the closing parenthesis, the second dash and
the blank behind it are one operator. -/
theorem Root.mem_longOperator (root : Root built) (isName : isIdentifier name)
    (isLabel : isIdentifier label) (space : Unicode.Shorthand.space.contains blank)
    (free : ')' ∉ rest) (longer : label.length ≠ 1) :
    ⟨.operator, secondDash name label - 1, secondDash name label + 1 + blank.utf8Size⟩ ∈
      (built.tokenize [] (edgeText name label (blank :: rest))).drain.1 := by
  have plain : ∀ char ∈ '(' :: (name ++ ':' :: label), isPlain char := by
    intro char member
    simp only [List.mem_cons, List.mem_append] at member
    rcases member with rfl | member | rfl | member
    · decide
    · exact isPlain_of_isIdentifier isName char member
    · decide
    · exact isPlain_of_isIdentifier isLabel char member
  have split : edgeText name label (blank :: rest) =
      '-' :: ('(' :: (name ++ ':' :: label) ++ ')' :: '-' :: blank :: rest) := by
    simp [edgeText, parenthesized]
  have unmatched : root.edge.matchHere? [] (edgeText name label (blank :: rest)) = none := by
    refine Option.eq_none_iff_forall_not_mem.mpr fun found matched => longer ?_
    exact (parts_of_edgeText (isBare_iff.mp root.edge_bare).2 root.edge_grouped isName isLabel
      (notMem_cons_of_space space free) matched).1
  rw [split] at unmatched ⊢
  obtain ⟨earlier, before, first⟩ := root.exists_earlier_of_dash plain unmatched
  obtain ⟨later, second⟩ := root.exists_later_of_blank space
  have place := secondDash_eq name label
  have stop : secondDash name label + 1 + blank.utf8Size =
      byteLength ('-' :: '(' :: (name ++ ':' :: label)) + (2 + blank.utf8Size) := by omega
  rw [tokens_eq]
  change _ ∈ ((enginePast built [] _ 0).run []).1
  rw [first, second, stop, place, Nat.add_sub_cancel]
  simp

/-- Then the second dash is no operator by itself, since the two would overlap. -/
theorem Root.length_eq_one (root : Root built) (isName : isIdentifier name)
    (isLabel : isIdentifier label) (space : Unicode.Shorthand.space.contains blank)
    (free : ')' ∉ rest)
    (dash : ⟨.operator, secondDash name label, secondDash name label + 1⟩ ∈
      (built.tokenize [] (edgeText name label (blank :: rest))).drain.1) : label.length = 1 := by
  by_contra longer
  have long := root.mem_longOperator isName isLabel space free longer
  have spelled := Tokens.drain_spells [] built (edgeText name label (blank :: rest)) "root"
  have apart := spelled.apart (List.mem_map_of_mem dash) (List.mem_map_of_mem long)
  simp only [Token.span, Prod.mk.injEq] at apart
  have first : 1 ≤ secondDash name label := Nat.le_add_right ..
  omega

end Edges

/-- **Edges.** The table for GSQL is built. Let two identifiers with a colon between them stand in
an edge, and a blank but no further closing parenthesis behind it. Then the tokens begin with the
first dash, go on as those of the text in parentheses do when it stands alone, moved by one, and
come to the second dash by itself, if and only if the second identifier is a single character. If it
is longer, one operator takes the closing parenthesis, the second dash and the blank. -/
theorem edge_in_place_iff {blank : Char} (isName : isIdentifier name) (isLabel : isIdentifier label)
    (space : Unicode.Shorthand.space.contains blank) (free : ')' ∉ rest) :
    ∃ built, table = .ok built ∧
      let tokens text := (built.tokenize [] text).drain.1
      let close := secondDash name label
      ((∃ later, tokens (edgeText name label (blank :: rest)) =
        ⟨.operator, 0, 1⟩ :: ((tokens (parenthesized name label)).map (Token.shift 1) ++
          ⟨.operator, close, close + 1⟩ :: later)) ↔ label.length = 1) ∧
      (label.length ≠ 1 → ⟨.operator, close - 1, close + 1 + blank.utf8Size⟩ ∈
        tokens (edgeText name label (blank :: rest))) := by
  obtain ⟨built, known⟩ := exists_table
  obtain ⟨root⟩ := exists_root known
  refine ⟨built, known, ⟨?_, root.exists_later known isName isLabel
    (notMem_cons_of_space space free)⟩, root.mem_longOperator isName isLabel space free⟩
  rintro ⟨later, tokens⟩
  exact root.length_eq_one isName isLabel space free (by simp [tokens])

/-- An edge whose second name is a single character is taken apart in place. -/
theorem edge_in_place_iff_of_single :
    isIdentifier "Follows".toList ∧ isIdentifier "e".toList ∧
      Unicode.Shorthand.space.contains ' ' ∧ ')' ∉ "t".toList ∧
      edgeText "Follows".toList "e".toList (' ' :: "t".toList) = "-(Follows:e)- t".toList ∧
      ∃ built, table = .ok built ∧ ∃ later,
        (built.tokenize [] "-(Follows:e)- t".toList).drain.1 =
          ⟨.operator, 0, 1⟩ :: ((built.tokenize [] "(Follows:e)".toList).drain.1.map
            (Token.shift 1) ++ ⟨.operator, 12, 13⟩ :: later) := by
  have isName : isIdentifier "Follows".toList := by decide
  have isLabel : isIdentifier "e".toList := by decide
  have space : Unicode.Shorthand.space.contains ' ' := by decide
  have free : ')' ∉ "t".toList := by decide
  refine ⟨isName, isLabel, space, free, rfl, ?_⟩
  obtain ⟨built, known, taken, -⟩ := edge_in_place_iff isName isLabel space free
  exact ⟨built, known, taken.mpr rfl⟩

/-- With the names the other way round it is not: the closing parenthesis, the dash and the blank
are one operator. -/
theorem exists_edge_not_in_place :
    isIdentifier "e".toList ∧ isIdentifier "Follows".toList ∧
      ∃ built, table = .ok built ∧
        ⟨.operator, 11, 14⟩ ∈ (built.tokenize [] "-(e:Follows)- ".toList).drain.1 ∧
        ¬∃ later, (built.tokenize [] "-(e:Follows)- ".toList).drain.1 =
          ⟨.operator, 0, 1⟩ :: ((built.tokenize [] "(e:Follows)".toList).drain.1.map
            (Token.shift 1) ++ ⟨.operator, 12, 13⟩ :: later) := by
  have isName : isIdentifier "e".toList := by decide
  have isLabel : isIdentifier "Follows".toList := by decide
  have space : Unicode.Shorthand.space.contains ' ' := by decide
  have spelled : edgeText "e".toList "Follows".toList [' '] = "-(e:Follows)- ".toList := rfl
  have place : secondDash "e".toList "Follows".toList = 12 := by decide
  obtain ⟨built, known⟩ := exists_table
  obtain ⟨root⟩ := exists_root known
  have long := root.mem_longOperator isName isLabel space List.not_mem_nil (by decide)
  have single := root.length_eq_one isName isLabel space List.not_mem_nil
  rw [spelled, place] at long single
  refine ⟨isName, isLabel, built, known, long, ?_⟩
  rintro ⟨later, tokens⟩
  rw [tokens] at single
  exact absurd (single (by simp)) (by decide)

end Gsql

end RuleLexer
