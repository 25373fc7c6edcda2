import RuleLexer.Proofs.Regex.Choices
import RuleLexer.Proofs.Regex.Compiling
import RuleLexer.Proofs.Regex.Reading
import RuleLexer.Proofs.Rule.WordOrder

/-!
# Reading the pattern of a vocabulary

The pattern of a vocabulary is a group of its words, and perhaps an edge of a word behind the group.
In the words every character that means something in a pattern is escaped, so each character is read
as one piece that stands for itself, or for its class if case does not matter. The pattern is
shallow whatever the words are, so nothing but its size can be refused.

## Main results

* `Vocabulary.ofSource_pattern`: the expression of the pattern.
* `Vocabulary.compile_pattern`: the pattern compiles unless it is too large.
-/
namespace RuleLexer.Vocabulary

open Regex

/-- What a character of a word denotes. -/
def spell (options : PatternOptions) (char : Char) : Expr :=
  if options.caseInsensitive then .ofSet (CharSet.single char).foldCase else .literal [char]

/-- What a word denotes. -/
def wordExpr (options : PatternOptions) (word : List Char) : Expr :=
  .sequence (word.map (spell options))

/-- What the words between the parentheses denote. -/
def body (options : PatternOptions) : List (List Char) → Expr
  | [word] => wordExpr options word
  | words => .choice (words.map (wordExpr options))

/-- What the pattern asks for behind a word. -/
def behind (vocabulary : Vocabulary) : List Expr :=
  if vocabulary.tail = "\\b" then [.look (.wordEdge .unicode)] else []

/-- What the pattern denotes: any of the words, and perhaps an edge of a word behind it. -/
def expr (options : PatternOptions) (vocabulary : Vocabulary) : Expr :=
  .sequence (body options vocabulary.sortedWords :: vocabulary.behind)

variable {options : PatternOptions} {reader : Reader} {branches : List (Nested Expr)}
  {pieces : List Piece} {char : Char} {word more : List Char} {words : List (List Char)}
  {result : Nested Expr} {final : Reader} {vocabulary : Vocabulary}

theorem literal_flags : options.flags.literal char false = .ok (spell options char) := by
  unfold Flags.literal spell
  cases caseInsensitive : options.caseInsensitive <;> simp [PatternOptions.flags, caseInsensitive]

theorem escape?_of_special (special : char ∈ specialChars) :
    escape? char = some (.char char false) ∧ ¬"xuUpPb".toList.contains char := by
  simp only [specialChars, List.mem_cons, List.not_mem_nil, or_false] at special
  rcases special with rfl | rfl | rfl | rfl | rfl | rfl | rfl | rfl | rfl | rfl | rfl | rfl | rfl |
    rfl | rfl | rfl | rfl | rfl <;> exact ⟨rfl, by decide⟩

/-- A special character is escaped. -/
theorem turn_special (flags : reader.flags = options.flags) (special : char ∈ specialChars) :
    (Reading.mk (reader.facing ('\\' :: char :: more)) branches pieces).turn =
      .ok (.next ⟨reader.facing more, branches, (some (spell options char), 0) :: pieces⟩) := by
  have plain : reader.flags.ignoreBlanks = false := by rw [flags]; rfl
  obtain ⟨atom, other⟩ := escape?_of_special special
  have read : readEscape reader.flags (char :: more) = .ok (.char char false, more) := by
    simp only [String.reduceToList, List.contains_cons, List.contains_nil, Bool.or_eq_true,
      beq_iff_eq, Bool.or_false, not_or] at other
    simp [readEscape, other, atom, pure, Except.pure]
  have means : reader.flags.atom (.char char false) = .ok (spell options char) := by
    rw [flags]
    exact literal_flags
  unfold Reading.turn
  dsimp only [Reader.facing]
  rw [Flags.skip_eq plain]
  change (readEscape reader.flags (char :: more) >>= fun escape =>
    reader.flags.atom escape.1 >>= fun expr => .ok (Reading.piece _ expr 0 escape.2)) = _
  simp only [read, means, bind, Except.bind]
  rfl

/-- Any other character stands for itself. -/
theorem turn_ordinary (flags : reader.flags = options.flags) (ordinary : char ∉ specialChars) :
    (Reading.mk (reader.facing (char :: more)) branches pieces).turn =
      .ok (.next ⟨reader.facing more, branches, (some (spell options char), 0) :: pieces⟩) := by
  have plain : reader.flags.ignoreBlanks = false := by rw [flags]; rfl
  have single : options.flags.single char = .ok (spell options char) := by
    unfold Flags.single
    split
    · exact absurd (by decide) ordinary
    · exact absurd (by decide) ordinary
    · exact absurd (by decide) ordinary
    · exact literal_flags
  unfold Reading.turn
  dsimp only [Reader.facing]
  rw [Flags.skip_eq plain]
  split
  · next none => cases none
  · next closes =>
    cases closes
    exact absurd (by decide) ordinary
  · next begins =>
    cases begins
    unfold Reading.begun
    split
    all_goals first
      | exact absurd (by decide) ordinary
      | simp only [flags, single, bind, Except.bind, pure, Except.pure]; rfl

theorem reads_word (flags : reader.flags = options.flags)
    (reads : ReadsTo ⟨reader.facing more, branches,
      (word.map fun char => (some (spell options char), 0)).reverse ++ pieces⟩ result final) :
    ReadsTo ⟨reader.facing (escapeWord word ++ more), branches, pieces⟩ result final := by
  induction word generalizing pieces with
  | nil => exact reads
  | cons char rest ih =>
    rw [List.map_cons, List.reverse_cons, List.append_assoc] at reads
    have later := ih reads
    rw [escapeWord, List.flatMap_cons, List.append_assoc]
    split
    · next special => exact .next (turn_special flags special) trivial later
    · next ordinary => exact .next (turn_ordinary flags ordinary) trivial later

/-! ### Branches -/

theorem foldl_max_le {depths : List Nat} {start bound : Nat} (first : start ≤ bound)
    (each : ∀ depth ∈ depths, depth ≤ bound) : depths.foldl max start ≤ bound := by
  induction depths generalizing start with
  | nil => exact first
  | cons depth rest ih =>
    obtain ⟨front, back⟩ := List.forall_mem_cons.mp each
    exact ih (Nat.max_le.mpr ⟨first, front⟩) back

/-- The pieces of a word, the last one first. -/
def wordPieces (options : PatternOptions) (word : List Char) : List Piece :=
  (word.map fun char => (some (spell options char), 0)).reverse

/-- A word is a shallow branch. -/
theorem closeSequence_wordPieces (options : PatternOptions) (word : List Char) :
    (closeSequence (wordPieces options word)).value = wordExpr options word ∧
      (closeSequence (wordPieces options word)).depth ≤ 1 := by
  constructor
  · simp [closeSequence, wordPieces, wordExpr, List.filterMap_map]
  · have depths : ∀ depth ∈ (wordPieces options word).map (·.2), depth ≤ 0 := by
      simp [wordPieces]
    change Piece.depth _ ≤ 1
    unfold Piece.depth
    split
    · exact Nat.zero_le _
    · next piece only =>
      rw [only] at depths
      exact Nat.le_succ_of_le (depths _ (List.mem_singleton_self _))
    · exact Nat.succ_le_succ (foldl_max_le (Nat.le_refl _) depths)

theorem reads_branch (flags : reader.flags = options.flags)
    (reads : ReadsTo ⟨reader.facing more, branches, wordPieces options word⟩ result final) :
    ReadsTo ⟨reader.facing (escapeWord word ++ more), branches, []⟩ result final :=
  reads_word flags (by simpa [wordPieces] using reads)

theorem turn_bar (plain : reader.flags.ignoreBlanks = false) :
    (Reading.mk (reader.facing ('|' :: more)) branches pieces).turn =
      .ok (.next ⟨reader.facing more, closeSequence pieces :: branches, []⟩) := by
  unfold Reading.turn
  dsimp only [Reader.facing]
  rw [Flags.skip_eq plain]
  rfl

theorem turn_parenthesis (plain : reader.flags.ignoreBlanks = false) :
    (Reading.mk (reader.facing (')' :: more)) branches pieces).turn =
      .ok (.close (reader.facing (')' :: more))) := by
  unfold Reading.turn
  dsimp only [Reader.facing]
  rw [Flags.skip_eq plain]
  rfl

/-- The last word ends the group. -/
theorem reads_lastWord (flags : reader.flags = options.flags) :
    ReadsTo ⟨reader.facing (escapeWord word ++ ')' :: more), branches, []⟩
      (closeChoice branches (closeSequence (wordPieces options word)))
      (reader.facing (')' :: more)) :=
  reads_branch flags (.close (turn_parenthesis (by rw [flags]; rfl)) trivial)

/-- Behind other branches the words are further ones. -/
theorem reads_furtherWords (flags : reader.flags = options.flags) (nonempty : words ≠ [])
    (earlier : branches ≠ []) (shallow : ∀ branch ∈ branches, branch.depth ≤ 1)
    (more : List Char) :
    ∃ result, ReadsTo ⟨reader.facing (alternatives words ++ ')' :: more), branches, []⟩ result
        (reader.facing (')' :: more)) ∧
      result.value =
        .choice (branches.reverse.map (·.value) ++ words.map (wordExpr options)) ∧
      result.depth ≤ 2 := by
  induction words generalizing branches with
  | nil => exact absurd rfl nonempty
  | cons word rest ih =>
    obtain ⟨value, depth⟩ := closeSequence_wordPieces options word
    cases rest with
    | nil =>
      refine ⟨_, reads_lastWord flags, ?_⟩
      unfold closeChoice
      split
      · exact absurd rfl earlier
      · refine ⟨by simp [value], Nat.succ_le_succ (foldl_max_le (Nat.zero_le _) ?_)⟩
        simpa [or_imp, forall_and, depth] using shallow
    | cons next rest =>
      obtain ⟨result, reads, known, bound⟩ := ih (List.cons_ne_nil next rest)
        (List.cons_ne_nil (closeSequence (wordPieces options word)) branches)
        (List.forall_mem_cons.mpr ⟨depth, shallow⟩)
      refine ⟨result, ?_, ?_, bound⟩
      · rw [alternatives, List.append_assoc, List.cons_append]
        · exact reads_branch flags (.next (turn_bar (by rw [flags]; rfl)) trivial reads)
        · exact List.cons_ne_nil _ _
      · rw [known, List.reverse_cons, List.map_append, List.append_assoc]
        simp [value]

/-- The words are read up to the parenthesis that ends the group. -/
theorem reads_alternatives (flags : reader.flags = options.flags) (nonempty : words ≠ [])
    (more : List Char) :
    ∃ result, ReadsTo (.start (reader.facing (alternatives words ++ ')' :: more))) result
        (reader.facing (')' :: more)) ∧
      result.value = body options words ∧ result.depth ≤ 2 := by
  obtain ⟨word, rest, rfl⟩ := List.exists_cons_of_ne_nil nonempty
  obtain ⟨value, depth⟩ := closeSequence_wordPieces options word
  cases rest with
  | nil => exact ⟨_, reads_lastWord flags, value, Nat.le_succ_of_le depth⟩
  | cons next rest =>
    obtain ⟨result, reads, known, bound⟩ := reads_furtherWords flags
      (List.cons_ne_nil next rest) (List.cons_ne_nil (closeSequence (wordPieces options word)) [])
      (List.forall_mem_singleton.mpr depth) more
    refine ⟨result, ?_, ?_, bound⟩
    · rw [alternatives, List.append_assoc, List.cons_append]
      · exact reads_branch flags (.next (turn_bar (by rw [flags]; rfl)) trivial reads)
      · exact List.cons_ne_nil _ _
    · simp [known, body, value]

/-! ### The whole pattern -/

theorem turn_edge (flags : reader.flags = options.flags) :
    (Reading.mk (reader.facing ['\\', 'b']) branches pieces).turn =
      .ok (.next
        ⟨reader.facing [], branches, (some (.look (.wordEdge .unicode)), 0) :: pieces⟩) := by
  have plain : reader.flags.ignoreBlanks = false := by rw [flags]; rfl
  have means : reader.flags.atom (.look .wordEdge) = .ok (.look (.wordEdge .unicode)) := by
    rw [flags]
    rfl
  unfold Reading.turn
  dsimp only [Reader.facing]
  rw [Flags.skip_eq plain]
  change (reader.flags.atom (.look .wordEdge) >>= fun expr => .ok (Reading.piece _ expr 0 [])) = _
  rw [means]
  rfl

/-- Behind the group the pattern ends, or an edge of a word is asked for. -/
theorem reads_tail (flags : reader.flags = options.flags)
    (tail : vocabulary.tail = "" ∨ vocabulary.tail = "\\b") (expr : Expr) {depth : Nat}
    (bound : depth ≤ 3) :
    ∃ result, ReadsTo ⟨reader.facing vocabulary.tail.toList, [], [(some expr, depth)]⟩ result
        (reader.facing []) ∧
      result.value = .sequence (expr :: vocabulary.behind) ∧ result.depth ≤ 4 := by
  have plain : reader.flags.ignoreBlanks = false := by rw [flags]; rfl
  have ends (pieces : List Piece) : (Reading.mk (reader.facing []) [] pieces).turn =
      .ok (.close (reader.facing [])) := Reading.turn_of_drained (Flags.skip_eq plain [])
  unfold behind
  rcases tail with tail | tail
  · rw [tail, if_neg (by decide)]
    exact ⟨_, .close (ends _) trivial, rfl, Nat.le_succ_of_le bound⟩
  · rw [tail, if_pos rfl]
    refine ⟨_, .next (turn_edge flags) trivial (.close (ends _) trivial), rfl, ?_⟩
    exact Nat.succ_le_succ (foldl_max_le (Nat.zero_le _) (by simpa using bound))

theorem ofSource_pattern (nonempty : vocabulary.words ≠ []) (lead : vocabulary.lead = "")
    (tail : vocabulary.tail = "" ∨ vocabulary.tail = "\\b") :
    Expr.ofSource options.flags vocabulary.pattern.toList = .ok (vocabulary.expr options) := by
  let reader : Reader := ⟨[], options.flags, 0, []⟩
  have flags : reader.flags = options.flags := rfl
  obtain ⟨inner, contents, value, depth⟩ :=
    reads_alternatives flags (sortedWords_ne_nil nonempty) vocabulary.tail.toList
  obtain ⟨result, onwards, known, bound⟩ :=
    reads_tail flags tail inner.value (Nat.succ_le_succ depth)
  rw [ofSource_eq_ok_iff]
  refine ⟨result, reader.facing [], ?_, rfl, Nat.le_trans bound (by decide), by
    rw [known, value, expr]⟩
  rw [toList_pattern, lead]
  exact .group (turn_plainGroup rfl) trivial contents rfl onwards

/-- The pattern compiles unless it is too large. -/
theorem compile_pattern (nonempty : vocabulary.words ≠ []) (lead : vocabulary.lead = "")
    (tail : vocabulary.tail = "" ∨ vocabulary.tail = "\\b") :
    Pattern.compile options vocabulary.pattern =
      if (vocabulary.expr options).footprint > footprintLimit then .error .tooLarge
      else .ok (.ofExpr vocabulary.pattern none (vocabulary.expr options)) := by
  have split : LookbehindSource.split? vocabulary.pattern.toList = none := by
    rw [toList_pattern, lead]
    rfl
  rw [Pattern.compile_of_split rfl split, Pattern.readExpr, ofSource_pattern nonempty lead tail]
  simp only [bind, Except.bind]
  split <;> rfl

end RuleLexer.Vocabulary
