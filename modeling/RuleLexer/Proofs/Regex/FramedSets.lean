import RuleLexer.Proofs.Regex.Framing

/-!
# Sets in brackets with something after them

The readers of sets in brackets leave a suffix of their text, and do the same with the end of an
assertion after the text: a set ends with a bracket of its own.

## Main results

* `finds_readAsciiClass?`: so it is with the names of classes.
* `steady_readSetStart`, `steady_readSetTurn`: with the beginning of a set, and with every turn.
* `readSet_follows`: with the rest of a set.
-/
namespace RuleLexer.Regex

/-- What the reader of a set sees past a hyphen is in the text. -/
theorem Framed.peek {flags : Flags} {text other : List Char} {char : Char}
    (framed : Framed flags text other) (within : char ≠ ')') (marked : char ≠ '#')
    (shown : ¬isBlank char) : flags.peek other = some char ↔ flags.peek text = some char := by
  cases framed with
  | dropped => rfl
  | ended =>
    unfold Flags.peek
    split
    · -- Past the blanks and one number sign either text shows a character of its own, or the end of
      -- the text, where the parenthesis is not the character that is asked for.
      have parenthesis : assertionEnd.dropWhile isBlank = assertionEnd := by decide +kernel
      have ends : assertionEnd.head? = some ')' := rfl
      have headed : text.head? = some char → (text.dropWhile isBlank).head? = some char := by
        cases text with
        | nil => exact id
        | cons first text =>
          rintro ⟨⟩
          rw [List.dropWhile_cons_of_neg shown]
          rfl
      simp only [peekPastBlanks, List.dropWhile_append]
      cases dropped : text.dropWhile isBlank with
      | nil =>
        rw [dropped] at headed
        simp only [List.isEmpty_nil, if_true, parenthesis, ends]
        grind
      | cons first rest =>
        rw [dropped] at headed
        by_cases mark : first = '#'
        · subst mark
          simp only [List.isEmpty_cons, Bool.false_eq_true, if_false, List.cons_append,
            List.head?_cons, if_true, List.tail_cons, List.dropWhile_append]
          cases rest.dropWhile isBlank with
          | nil =>
            simp only [List.isEmpty_nil, if_true, parenthesis, ends]
            grind
          | cons => simp
        · simp [mark]
    · cases text <;> simp [assertionEnd, within.symm]

/-- A reader that may find nothing finds the same with the end of an assertion after the text. -/
def Finds {α : Type} (read : List Char → Option (α × List Char)) : Prop :=
  ∀ ⦃flags text other⦄, Framed flags text other → read text = none ∧ read other = none ∨
    ∃ value rest more, read text = some (value, rest) ∧ rest <:+ text ∧
      read other = some (value, more) ∧ Framed flags rest more

theorem finds_readAsciiName? : Finds readAsciiName? := by
  intro flags text other framed
  simp only [readAsciiName?, drop_length_takeWhile]
  rcases framed.cut ':' (by decide) with
    ⟨uncut, uncutThere⟩ | ⟨rest, more, cut, cutThere, same, suffix, close⟩
  · rw [uncut, uncutThere]
    exact .inl ⟨rfl, rfl⟩
  rw [cut, cutThere, same]
  cases rest with
  | nil =>
    -- The name is not closed, and the end of an assertion does not close it.
    rcases close.of_nil with rfl | ⟨-, rfl⟩ <;> exact .inl ⟨rfl, rfl⟩
  | cons char rest =>
    obtain ⟨more, rfl, left⟩ := close.of_cons
    by_cases closes : char = ']'
    · subst closes
      cases asciiClass? (.ofList (text.takeWhile (· != ':'))) with
      | none => exact .inl ⟨rfl, rfl⟩
      | some ranges =>
        exact .inr ⟨ranges, rest, more, rfl, (List.suffix_cons ']' rest).trans suffix, rfl, left⟩
    · left
      simp [closes]

theorem Finds.map {α β : Type} {read : List Char → Option (α × List Char)} (finds : Finds read)
    (change : α → β) :
    Finds fun text => (read text).map fun (value, rest) => (change value, rest) := by
  intro flags text other framed
  rcases finds framed with ⟨none, again⟩ | ⟨value, rest, more, some, suffix, again, left⟩
  · exact .inl ⟨by simp [none], by simp [again]⟩
  · exact .inr ⟨change value, rest, more, by simp [some], suffix, by simp [again], left⟩

theorem Finds.of_append {α : Type} {flags : Flags} {read after : List Char → Option (α × List Char)}
    (start : List Char) {text other : List Char} (finds : Finds after)
    (same : read (start ++ text) = after text)
    (again : ∀ ⦃tail⦄, Framed flags text tail → read (start ++ tail) = after tail)
    (framed : Framed flags (start ++ text) other) :
    read (start ++ text) = none ∧ read other = none ∨
      ∃ value rest more, read (start ++ text) = some (value, rest) ∧ rest <:+ start ++ text ∧
        read other = some (value, more) ∧ Framed flags rest more := by
  obtain ⟨tail, rfl, close⟩ := framed.of_append start
  rw [same, again close]
  exact (finds close).imp_right fun ⟨value, rest, more, known, suffix, found⟩ =>
    ⟨value, rest, more, known, suffix.trans (List.suffix_append start text), found⟩

theorem readAsciiClass?_eq_of_not_negated {text : List Char} (plain : ∀ rest, text ≠ '^' :: rest) :
    readAsciiClass? (':' :: text) =
      (readAsciiName? text).map fun (ranges, rest) => ((ranges, false), rest) := by
  unfold readAsciiClass?
  split
  · next same => exact absurd (List.cons.inj same).2 (plain _)
  · next same => rw [(List.cons.inj same).2]
  · next other => exact absurd rfl (other text)

theorem finds_readAsciiClass? : Finds readAsciiClass? := by
  intro flags text other framed
  by_cases named : ∃ after, text = ':' :: after
  · obtain ⟨after, rfl⟩ := named
    by_cases negated : ∃ rest, after = '^' :: rest
    · obtain ⟨rest, rfl⟩ := negated
      exact Finds.of_append [':', '^'] (finds_readAsciiName?.map fun ranges => (ranges, true)) rfl
        (fun _ _ => rfl) framed
    · refine Finds.of_append [':'] (finds_readAsciiName?.map fun ranges => (ranges, false))
        (readAsciiClass?_eq_of_not_negated fun rest same => negated ⟨rest, same⟩)
        (fun tail close => readAsciiClass?_eq_of_not_negated ?_) framed
      rintro rest rfl
      obtain ⟨rest, same, -⟩ := close.to_cons (by decide)
      exact negated ⟨rest, same⟩
  · have unnamed {text : List Char} (unnamed : ¬∃ after, text = ':' :: after) :
        readAsciiClass? text = none := by
      unfold readAsciiClass?
      split
      · exact absurd ⟨_, rfl⟩ unnamed
      · exact absurd ⟨_, rfl⟩ unnamed
      · rfl
    refine .inl ⟨unnamed named, unnamed ?_⟩
    rintro ⟨tail, rfl⟩
    obtain ⟨after, same, -⟩ := framed.to_cons (by decide)
    exact named ⟨after, same⟩

theorem steady_readSetFirst (flags : Flags) : Steady flags (readSetFirst flags) := by
  refine .of_follows fun text other framed => ?_
  have run := left_readRun (· = '-') rfl framed (Nat.le_succ _) (Nat.le_succ _)
  unfold readSetFirst
  generalize readRun flags _ (text.length + 1) text = first at run ⊢
  generalize readRun flags _ (other.length + 1) other = second at run ⊢
  obtain ⟨hyphens, back⟩ := first
  obtain ⟨_, further⟩ := second
  obtain ⟨rfl, suffix, close⟩ := run
  dsimp only at suffix close ⊢
  cases back with
  | nil => exact .error
  | cons char after =>
    obtain ⟨tail, rfl, near⟩ := close.of_cons
    by_cases closes : char = ']'
    · subst closes
      simp only
      split
      · -- A bracket that comes first is an item, and the set must go on after it.
        rcases near.ahead with drained | ⟨next, later, onwards, here, there, -, -⟩
        · rw [drained]
          exact .error
        · have left : Framed flags (next :: later) (next :: onwards) := here ▸ there ▸ near.skip
          rw [here, there]
          exact .ok ⟨rfl, (here ▸ flags.skip_suffix after).trans
            ((List.suffix_cons _ _).trans suffix), left⟩
      · exact .ok ⟨rfl, suffix, close⟩
    · simp only [List.cons.injEq, closes, false_and, false_implies, implies_true]
      exact .ok ⟨rfl, suffix, close⟩

theorem steady_readSetStart (flags : Flags) : Steady flags (readSetStart flags) := by
  refine .of_follows fun text other framed => ?_
  unfold readSetStart
  rcases framed.ahead with drained | ⟨char, after, tail, here, there, suffix, close⟩
  · rw [drained]
    exact .error
  rw [here, there]
  by_cases negated : char = '^'
  · subst negated
    refine ((steady_readSetFirst flags).follows close.skip).bind ?_
    rintro ⟨items, rest⟩ ⟨_, more⟩ ⟨rfl, inner, near⟩
    exact .ok ⟨rfl, (inner.trans (flags.skip_suffix after)).trans suffix, near⟩
  · simp only [List.cons.injEq, negated, false_and, false_implies, implies_true]
    have ahead : Framed flags (char :: after) (char :: tail) := here ▸ there ▸ framed.skip
    refine ((steady_readSetFirst flags).follows ahead).bind ?_
    rintro ⟨items, rest⟩ ⟨_, more⟩ ⟨rfl, inner, near⟩
    exact .ok ⟨rfl, inner.trans (here ▸ flags.skip_suffix text), near⟩

theorem steady_readSetAtom (flags : Flags) : Steady flags (readSetAtom flags) := by
  refine .of_follows fun text other framed => ?_
  cases text with
  | nil => exact .error
  | cons char text =>
    obtain ⟨tail, rfl, close⟩ := framed.of_cons
    by_cases escaped : char = '\\'
    · subst escaped
      exact ((steady_readEscape flags).follows close).mono fun _ _ =>
        .within (List.suffix_cons _ text)
    · simp only [readSetAtom]
      exact .ok ⟨rfl, List.suffix_cons char text, close⟩

theorem steady_readSetItem (flags : Flags) : Steady flags (readSetItem flags) := by
  refine .of_follows fun text other framed => ?_
  refine ((steady_readSetAtom flags).follows framed).bind ?_
  rintro ⟨first, back⟩ ⟨_, further⟩ ⟨rfl, inner, near⟩
  dsimp only at inner near ⊢
  rcases near.ahead with drained | ⟨char, after, tail, here, there, suffix, close⟩
  · rw [drained]
    exact .error
  have ahead : Framed flags (char :: after) (char :: tail) := here ▸ there ▸ near.skip
  have within : char :: after <:+ text := (here ▸ flags.skip_suffix back).trans inner
  rw [here, there]
  by_cases hyphen : char = '-'
  · subst hyphen
    -- Whether the hyphen begins a range is decided by the same character in both texts.
    simp only [close.peek (show ']' ≠ ')' by decide) (by decide) (by decide +kernel),
      close.peek (show '-' ≠ ')' by decide) (by decide) (by decide +kernel)]
    split
    · refine (Follows.refl (flags.item first)).bind ?_
      rintro set _ rfl
      exact .ok ⟨rfl, within, ahead⟩
    · refine ((steady_readSetAtom flags).follows close.skip).bind ?_
      rintro ⟨last, rest⟩ ⟨_, more⟩ ⟨rfl, taken, left⟩
      refine (Follows.refl (flags.range first last)).bind ?_
      rintro set _ rfl
      exact .ok ⟨rfl, (taken.trans (flags.skip_suffix after)).trans (suffix.trans inner), left⟩
  · simp only [List.cons.injEq, hyphen, false_and, false_implies, implies_true]
    refine (Follows.refl (flags.item first)).bind ?_
    rintro set _ rfl
    exact .ok ⟨rfl, within, ahead⟩

/-- What begins with no bracket and no operator is an item. -/
theorem readSetTurn_of_item {flags : Flags} {text after : List Char} {char : Char}
    (skipped : flags.skip text = char :: after) (unopened : char ≠ '[') (unclosed : char ≠ ']')
    (single : ∀ rest, after = char :: rest → char ∉ ['&', '-', '~']) :
    readSetTurn flags text = (do
      let (set, rest) ← readSetItem flags (char :: after)
      return (.item set, rest)) := by
  unfold readSetTurn
  rw [skipped]
  split
  · next same => cases same
  · next same => exact absurd (List.head_eq_of_cons_eq same) unopened
  · next same => exact absurd (List.head_eq_of_cons_eq same) unclosed
  all_goals grind

theorem steady_readSetTurn (flags : Flags) : Steady flags (readSetTurn flags) := by
  refine .of_follows fun text other framed => ?_
  rcases framed.ahead with drained | ⟨char, after, tail, here, there, suffix, close⟩
  · rw [readSetTurn, drained]
    exact .error
  by_cases unopened : char = '['
  · subst unopened
    simp only [readSetTurn, here, there]
    rcases finds_readAsciiClass? close with ⟨unnamed, unnamedThere⟩ |
      ⟨⟨ranges, negated⟩, rest, more, named, taken, namedThere, left⟩
    · simp only [unnamed, unnamedThere]
      refine ((steady_readSetStart flags).follows close).bind ?_
      rintro ⟨⟨negated, items⟩, rest⟩ ⟨_, more⟩ ⟨rfl, inner, near⟩
      exact .ok ⟨rfl, inner.trans suffix, near⟩
    · simp only [named, namedThere]
      refine (Follows.refl (flags.finish negated ⟨ranges⟩)).bind ?_
      rintro set _ rfl
      exact .ok ⟨rfl, taken.trans suffix, left⟩
  by_cases unclosed : char = ']'
  · subst unclosed
    simp only [readSetTurn, here, there]
    exact .ok ⟨rfl, suffix, close⟩
  by_cases doubled : ∃ rest, after = char :: rest ∧ char ∈ ['&', '-', '~']
  · -- An operator is a character that stands there twice.
    obtain ⟨rest, rfl, operator⟩ := doubled
    obtain ⟨more, rfl, left⟩ := close.of_cons
    have within : rest <:+ text := (List.suffix_cons char rest).trans suffix
    simp only [List.mem_cons, List.not_mem_nil, or_false] at operator
    rcases operator with rfl | rfl | rfl
    all_goals
      simp only [readSetTurn, here, there]
      exact .ok ⟨rfl, within, left⟩
  · have single (rest : List Char) (same : after = char :: rest) : char ∉ ['&', '-', '~'] :=
      fun operator => doubled ⟨rest, same, operator⟩
    -- The parenthesis after the text is no operator.
    have singleThere (rest : List Char) (same : tail = char :: rest) : char ∉ ['&', '-', '~'] := by
      intro operator
      subst same
      obtain ⟨rest, rfl, -⟩ := close.to_cons (by rintro rfl; revert operator; decide)
      exact doubled ⟨rest, rfl, operator⟩
    rw [readSetTurn_of_item here unopened unclosed single,
      readSetTurn_of_item there unopened unclosed singleThere]
    refine ((steady_readSetItem flags).follows (here ▸ there ▸ framed.skip)).bind ?_
    rintro ⟨set, rest⟩ ⟨_, more⟩ ⟨rfl, inner, near⟩
    exact .ok ⟨rfl, inner.trans (here ▸ flags.skip_suffix text), near⟩

/-- A set in brackets ends with its closing bracket, so any fuel that is enough will do. -/
theorem readSet_follows {flags : Flags} {negated : Bool} {fuel enough : Nat}
    {earlier : Option (SetOperator × Nested CharSet)} {items : Items} {text other : List Char}
    (framed : Framed flags text other) (fits : fuel ≤ enough) :
    Follows (Left flags text) (readSet flags negated fuel earlier items text)
      (readSet flags negated enough earlier items other) := by
  -- By the fuel, as a set in the set is read with what is left of it.
  induction fuel generalizing negated enough earlier items text other with
  | zero => exact .error
  | succ fuel ih =>
    obtain ⟨enough, rfl⟩ := Nat.exists_eq_add_of_le' (Nat.le_trans (Nat.succ_pos fuel) fits)
    have fits := Nat.le_of_succ_le_succ fits
    rw [readSet, readSet]
    refine ((steady_readSetTurn flags).follows framed).bind ?_
    rintro ⟨turn, rest⟩ ⟨_, more⟩ ⟨rfl, suffix, close⟩
    cases turn with
    | close =>
      refine (Follows.refl (combine flags earlier items)).bind ?_
      rintro whole _ rfl
      refine (Follows.refl (flags.finish negated whole.value)).bind ?_
      rintro chars _ rfl
      exact .ok ⟨rfl, suffix, close⟩
    | item item => exact (ih close fits).mono fun _ _ => .within suffix
    | operator operator =>
      refine (Follows.refl (combine flags earlier items)).bind ?_
      rintro left _ rfl
      exact (ih close fits).mono fun _ _ => .within suffix
    | nested innerNegated innerItems =>
      refine (ih close fits).bind ?_
      rintro ⟨inner, after⟩ ⟨_, further⟩ ⟨rfl, within, near⟩
      exact (ih near fits).mono fun _ _ => .within (within.trans suffix)

end RuleLexer.Regex
