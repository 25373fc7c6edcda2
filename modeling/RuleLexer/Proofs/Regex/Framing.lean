import Mathlib.Data.List.TakeWhile
import RuleLexer.Proofs.Except
import RuleLexer.Regex.Source

/-!
# Reading a pattern with something after it

The text of an assertion is read on its own and, with a parenthesis and the end of the text after
it, as the contents of a group. The readers of the parts of a pattern look ahead, but never past a
closing parenthesis, so both ways they read the same and leave off at the same place. There is one
exception: a comment runs on to the end of the line and takes what comes after the text with it.

## Main results

* `Left`: the same is read from both texts, and the same is left of them.
* `Steady`: a reader leaves a suffix of its text, and does the same with something after the text.
  `Steady.of_follows` says it of both texts at once, so that it is shown step by step.
* `steady_readEscape`, `steady_readBounds`: so do the readers of escapes and of the bounds of
  repetitions.
-/
namespace RuleLexer.Regex

/-- What comes after the text of an assertion. -/
def assertionEnd : List Char := [')', '\\', 'z']

/-- The second text is the first one with the end of an assertion after it; where comments are
dropped, the end may be gone with one. -/
inductive Framed (flags : Flags) : List Char → List Char → Prop
  | ended (text : List Char) : Framed flags text (text ++ assertionEnd)
  | dropped (blanks : flags.ignoreBlanks) : Framed flags [] []

namespace Framed

variable {flags : Flags} {text other : List Char} {char : Char}

theorem of_cons (framed : Framed flags (char :: text) other) :
    ∃ more, other = char :: more ∧ Framed flags text more := by
  cases framed
  exact ⟨_, rfl, .ended text⟩

/-- Within the text the flags do not matter. -/
theorem under (framed : Framed flags (char :: text) other) (later : Flags) :
    Framed later (char :: text) other := by
  cases framed
  exact .ended _

theorem of_nil (framed : Framed flags [] other) :
    other = assertionEnd ∨ flags.ignoreBlanks ∧ other = [] := by
  cases framed with
  | ended => exact .inl rfl
  | dropped blanks => exact .inr ⟨blanks, rfl⟩

/-- The end of an assertion begins with a parenthesis, so nothing else is put before the text. -/
theorem to_cons (framed : Framed flags text (char :: other)) (within : char ≠ ')') :
    ∃ rest, text = char :: rest ∧ Framed flags rest other := by
  generalize same : char :: other = whole at framed
  cases framed with
  | dropped => cases same
  | ended =>
    cases text with
    | nil => exact absurd (List.head_eq_of_cons_eq same) within
    | cons first rest =>
      obtain ⟨rfl, rfl⟩ := List.cons.inj same
      exact ⟨rest, rfl, .ended rest⟩

/-- What begins without a parenthesis begins so in the text. -/
theorem to_append (start : List Char) (within : ')' ∉ start)
    (framed : Framed flags text (start ++ other)) :
    ∃ rest, text = start ++ rest ∧ Framed flags rest other := by
  induction start generalizing text with
  | nil => exact ⟨text, rfl, framed⟩
  | cons char start ih =>
    obtain ⟨first, others⟩ := not_or.mp (List.mem_cons.not.mp within)
    obtain ⟨_, rfl, close⟩ := framed.to_cons (Ne.symm first)
    obtain ⟨rest, rfl, left⟩ := ih others close
    exact ⟨rest, rfl, left⟩

theorem length_le (framed : Framed flags text other) : text.length ≤ other.length := by
  cases framed <;> simp

/-- What is dropped from the beginning of the text is dropped with and without the end. -/
theorem dropWhile {drops : Char → Bool} (stays : ¬drops ')') (framed : Framed flags text other) :
    Framed flags (text.dropWhile drops) (other.dropWhile drops) := by
  cases framed with
  | dropped blanks => exact .dropped blanks
  | ended =>
    induction text with
    | nil => simpa [assertionEnd, stays] using Framed.ended []
    | cons first rest ih =>
      cases drop : drops first
      · simpa [drop] using Framed.ended (first :: rest)
      · simpa [drop] using ih

theorem dropBlanks (blanks : flags.ignoreBlanks) (inComment : Bool)
    (framed : Framed flags text other) :
    Framed flags (dropBlanks inComment text) (dropBlanks inComment other) := by
  cases framed with
  | dropped => exact .dropped blanks
  | ended =>
    induction text generalizing inComment with
    | nil =>
      -- A comment that has not ended with the text takes the end of the assertion with it.
      cases inComment with
      | false =>
        exact (by decide +kernel : Regex.dropBlanks false assertionEnd = assertionEnd) ▸ .ended []
      | true =>
        exact (by decide +kernel : Regex.dropBlanks true assertionEnd = []) ▸ .dropped blanks
    | cons first rest ih =>
      rw [List.cons_append, Regex.dropBlanks, Regex.dropBlanks]
      split
      · exact ih _
      · split
        · exact ih _
        · split
          · exact ih _
          · exact .ended (first :: rest)

theorem skip (framed : Framed flags text other) :
    Framed flags (flags.skip text) (flags.skip other) := by
  unfold Flags.skip
  split
  · next blanks => exact framed.dropBlanks blanks false
  · exact framed

theorem of_append (start : List Char) (framed : Framed flags (start ++ text) other) :
    ∃ more, other = start ++ more ∧ Framed flags text more := by
  induction start generalizing other with
  | nil => exact ⟨other, rfl, framed⟩
  | cons char start ih =>
    obtain ⟨_, rfl, close⟩ := framed.of_cons
    obtain ⟨more, rfl, left⟩ := ih close
    exact ⟨more, rfl, left⟩

/-- The text goes on with the same characters when it has the end after it. -/
theorem skip_append (start : List Char) {after : List Char}
    (skipped : flags.skip text = start ++ after) (framed : Framed flags text other) :
    ∃ more, flags.skip other = start ++ more ∧ Framed flags after more :=
  (skipped ▸ framed.skip).of_append start

theorem skip_cons {after : List Char} (skipped : flags.skip text = char :: after)
    (framed : Framed flags text other) :
    ∃ more, flags.skip other = char :: more ∧ Framed flags after more :=
  framed.skip_append [char] skipped

end Framed

theorem dropBlanks_suffix (inComment : Bool) (text : List Char) :
    dropBlanks inComment text <:+ text := by
  induction text generalizing inComment with
  | nil => exact List.suffix_rfl
  | cons first rest ih =>
    have later (inComment : Bool) := (ih inComment).trans (List.suffix_cons first rest)
    rw [dropBlanks]
    split
    · exact later _
    · split
      · exact later _
      · split
        · exact later _
        · exact List.suffix_rfl

theorem Flags.skip_eq {flags : Flags} (plain : flags.ignoreBlanks = false) (text : List Char) :
    flags.skip text = text := by
  rw [skip, plain, if_neg Bool.false_ne_true]

theorem Flags.skip_suffix (flags : Flags) (text : List Char) : flags.skip text <:+ text := by
  unfold skip
  split
  · exact dropBlanks_suffix false text
  · exact List.suffix_rfl

theorem Flags.suffix_of_skip {flags : Flags} {text after : List Char} {char : Char}
    (skipped : flags.skip text = char :: after) : after <:+ text :=
  (List.suffix_cons char after).trans (skipped ▸ flags.skip_suffix text)

/-- The readers look at the same character of both texts, unless nothing is left of the text. -/
theorem Framed.ahead {flags : Flags} {text other : List Char} (framed : Framed flags text other) :
    flags.skip text = [] ∨ ∃ char after tail, flags.skip text = char :: after ∧
      flags.skip other = char :: tail ∧ after <:+ text ∧ Framed flags after tail := by
  cases skipped : flags.skip text with
  | nil => exact .inl rfl
  | cons char after =>
    obtain ⟨tail, again, close⟩ := framed.skip_cons skipped
    exact .inr ⟨char, after, tail, rfl, again, Flags.suffix_of_skip skipped, close⟩

theorem drop_length_takeWhile (kind : Char → Bool) (text : List Char) :
    text.drop (text.takeWhile kind).length = text.dropWhile kind := by
  induction text with
  | nil => rfl
  | cons char text ih => cases known : kind char <;> simp [known, ih]

/-- Both texts are cut in the same place, if they are cut at all, before a character that is not in
the end of an assertion. -/
theorem Framed.cut {flags : Flags} {text other : List Char} (separator : Char)
    (outside : separator ∉ assertionEnd) (framed : Framed flags text other) :
    text.dropWhile (· != separator) = [] ∧ other.dropWhile (· != separator) = [] ∨
      ∃ rest more, text.dropWhile (· != separator) = separator :: rest ∧
        other.dropWhile (· != separator) = separator :: more ∧
        other.takeWhile (· != separator) = text.takeWhile (· != separator) ∧
        rest <:+ text ∧ Framed flags rest more := by
  cases framed with
  | dropped => exact .inl ⟨rfl, rfl⟩
  | ended =>
    induction text with
    | nil =>
      refine .inl ⟨rfl, List.dropWhile_eq_nil_iff.mpr fun char mem => bne_iff_ne.mpr ?_⟩
      rintro rfl
      exact outside mem
    | cons char text ih =>
      by_cases here : char = separator
      · subst here
        exact .inr ⟨text, text ++ assertionEnd, by simp, by simp, by simp,
          List.suffix_cons char text, .ended text⟩
      · have goesOn : (char != separator) = true := bne_iff_ne.mpr here
        simp only [List.cons_append, List.dropWhile_cons, List.takeWhile_cons, goesOn, if_true]
        refine ih.imp_right ?_
        rintro ⟨rest, more, cut, cutThere, same, suffix, left⟩
        exact ⟨rest, more, cut, cutThere, congrArg (char :: ·) same,
          suffix.trans (List.suffix_cons char text), left⟩

/-- A reader leaves a suffix of its text, and with the end of an assertion after the text it reads
the same and leaves the same. -/
def Steady {α : Type} (flags : Flags)
    (read : List Char → Except SourceError (α × List Char)) : Prop :=
  ∀ ⦃text value rest⦄, read text = .ok (value, rest) →
    rest <:+ text ∧ ∀ ⦃other⦄, Framed flags text other →
      ∃ more, read other = .ok (value, more) ∧ Framed flags rest more

variable {α : Type} {flags : Flags} {text other : List Char}

/-- What is read from the text is read from the other one, and the same is left of both. -/
structure Left (flags : Flags) (text : List Char) (result other : α × List Char) : Prop where
  value : result.1 = other.1
  suffix : result.2 <:+ text
  framed : Framed flags result.2 other.2

theorem Left.within {whole : List Char} {result again : α × List Char} (suffix : text <:+ whole)
    (left : Left flags text result again) : Left flags whole result again :=
  ⟨left.value, left.suffix.trans suffix, left.framed⟩

namespace Steady

variable {read : List Char → Except SourceError (α × List Char)}

theorem of_follows (follows : ∀ ⦃text other⦄, Framed flags text other →
    Follows (Left flags text) (read text) (read other)) : Steady flags read := by
  intro text value rest known
  refine ⟨?_, fun other framed => ?_⟩
  · obtain ⟨_, -, left⟩ := follows (.ended text) known
    exact left.suffix
  · obtain ⟨⟨_, more⟩, again, rfl, -, close⟩ := follows framed known
    exact ⟨more, again, close⟩

theorem follows (steady : Steady flags read) (framed : Framed flags text other) :
    Follows (Left flags text) (read text) (read other) := by
  rintro ⟨value, rest⟩ known
  obtain ⟨suffix, further⟩ := steady known
  obtain ⟨more, again, close⟩ := further framed
  exact ⟨(value, more), again, rfl, suffix, close⟩

end Steady

theorem steady_ok (value : α) : Steady flags fun text => .ok (value, text) :=
  .of_follows fun _ _ framed => .ok ⟨rfl, List.suffix_rfl, framed⟩

theorem steady_error (cause : SourceError) :
    Steady flags fun _ => (.error cause : Except SourceError (α × List Char)) :=
  .of_follows fun _ _ _ => .error

/-! ### Escapes -/

theorem steady_readHexDigits (flags : Flags) (value count : Nat) :
    Steady flags (readHexDigits flags value count) := by
  induction count generalizing value with
  | zero => exact steady_ok value
  | succ count ih =>
    refine .of_follows fun text other framed => ?_
    cases text with
    | nil => exact .error
    | cons char text =>
      obtain ⟨more, rfl, close⟩ := framed.of_cons
      rw [readHexDigits, readHexDigits]
      cases Number.digitValue? char with
      | none => exact .error
      | some digit =>
        exact ((ih _).follows close.skip).mono fun _ _ =>
          .within ((flags.skip_suffix text).trans (List.suffix_cons char text))

/-- The closing brace is found no matter what comes after it, so any fuel that is enough will do. -/
theorem readBraced_follows {fuel enough : Nat} (framed : Framed flags text other)
    (fits : fuel ≤ enough) :
    Follows (Left flags text) (readBraced flags fuel text) (readBraced flags enough other) := by
  induction fuel generalizing text other enough with
  | zero => exact .error
  | succ fuel ih =>
    obtain ⟨enough, rfl⟩ := Nat.exists_eq_add_of_le' (Nat.le_trans (Nat.succ_pos fuel) fits)
    rw [readBraced, readBraced]
    rcases framed.ahead with drained | ⟨char, after, tail, here, there, suffix, close⟩
    · rw [drained]
      exact .error
    rw [here, there]
    by_cases closes : char = '}'
    · subst closes
      exact .ok ⟨rfl, suffix, close⟩
    · simp only
      refine (ih close (Nat.le_of_succ_le_succ fits)).bind ?_
      rintro ⟨chars, rest⟩ ⟨_, more⟩ ⟨rfl, inner, near⟩
      exact .ok ⟨rfl, inner.trans suffix, near⟩

theorem steady_readHex (flags : Flags) (letter : Char) : Steady flags (readHex flags letter) := by
  refine .of_follows fun text other framed => ?_
  unfold readHex
  rcases framed.ahead with drained | ⟨char, after, tail, here, there, suffix, close⟩
  · rw [drained]
    exact .error
  rw [here, there]
  by_cases braced : char = '{'
  · subst braced
    refine (readBraced_follows close (Nat.succ_le_succ close.length_le)).bind ?_
    rintro ⟨digits, rest⟩ ⟨_, more⟩ ⟨rfl, inner, near⟩
    dsimp only
    cases Number.ofDigits? 16 digits with
    | none => exact .error
    | some value =>
      refine (Follows.refl (scalar? value)).bind ?_
      rintro char _ rfl
      exact .ok ⟨rfl, (flags.skip_suffix rest).trans (inner.trans suffix), near.skip⟩
  · simp only [List.cons.injEq, braced, false_and, false_implies, implies_true]
    have ahead : Framed flags (char :: after) (char :: tail) := here ▸ there ▸ framed.skip
    refine ((steady_readHexDigits flags _ _).follows ahead).bind ?_
    rintro ⟨value, rest⟩ ⟨_, more⟩ ⟨rfl, inner, near⟩
    refine (Follows.refl (scalar? value)).bind ?_
    rintro char _ rfl
    exact .ok ⟨rfl, inner.trans (here ▸ flags.skip_suffix text), near⟩

theorem steady_readProperty (flags : Flags) (negated : Bool) :
    Steady flags (readProperty flags negated) := by
  refine .of_follows fun text other framed => ?_
  unfold readProperty
  rcases framed.ahead with drained | ⟨char, after, tail, here, there, suffix, close⟩
  · rw [drained]
    exact .error
  rw [here, there]
  by_cases braced : char = '{'
  · subst braced
    refine (readBraced_follows close (Nat.succ_le_succ close.length_le)).bind ?_
    rintro ⟨name, rest⟩ ⟨_, more⟩ ⟨rfl, inner, near⟩
    exact .ok ⟨rfl, inner.trans suffix, near⟩
  by_cases escaped : char = '\\'
  · subst escaped
    exact .error
  simp only
  exact .ok ⟨rfl, (flags.skip_suffix after).trans suffix, close.skip⟩

/-- A run ends before the first character of another kind, or with the text. -/
theorem left_readRun (wanted : Char → Bool) (stops : wanted ')' = false) {fuel enough : Nat}
    (framed : Framed flags text other) (fits : text.length ≤ fuel)
    (lasts : other.length ≤ enough) :
    Left flags text (readRun flags wanted fuel text) (readRun flags wanted enough other) := by
  -- A run that reaches the end of the text is ended by the parenthesis after it.
  have drained {other : List Char} {enough : Nat} (framed : Framed flags [] other) :
      Left flags [] (([] : List Char), []) (readRun flags wanted enough other) := by
    have none : readRun flags wanted enough other = ([], other) := by
      rcases framed.of_nil with rfl | ⟨-, rfl⟩ <;> cases enough <;>
        simp [readRun, assertionEnd, stops]
    exact none ▸ ⟨rfl, List.suffix_rfl, framed⟩
  induction fuel generalizing text other enough with
  | zero =>
    obtain rfl := List.eq_nil_of_length_eq_zero (Nat.le_zero.mp fits)
    exact drained framed
  | succ fuel ih =>
    cases text with
    | nil => exact drained framed
    | cons char text =>
      obtain ⟨tail, rfl, close⟩ := framed.of_cons
      obtain ⟨enough, rfl⟩ := Nat.exists_eq_add_of_le' (Nat.le_trans (Nat.succ_pos _) lasts)
      rw [readRun, readRun]
      split
      · have shorter := (flags.skip_suffix text).length_le
        have left := ih close.skip
          (Nat.le_trans (flags.skip_suffix text).length_le (Nat.le_of_succ_le_succ fits))
          (Nat.le_trans (flags.skip_suffix tail).length_le (Nat.le_of_succ_le_succ lasts))
        exact ⟨congrArg (char :: ·) left.value,
          (left.suffix.trans (flags.skip_suffix text)).trans (List.suffix_cons _ _), left.framed⟩
      · exact ⟨rfl, List.suffix_rfl, framed⟩

theorem steady_readBoundary (flags : Flags) : Steady flags (readBoundary flags) := by
  refine .of_follows fun text other framed => ?_
  by_cases braced : ∃ after, text = '{' :: after
  · obtain ⟨after, rfl⟩ := braced
    obtain ⟨tail, rfl, close⟩ := framed.of_cons
    simp only [readBoundary]
    rcases close.ahead with drained | ⟨char, more, left, here, there, suffix, near⟩
    · rw [drained]
      exact .error
    rw [here, there]
    dsimp only
    split
    · have ahead : Framed flags (char :: more) (char :: left) := here ▸ there ▸ close.skip
      have run := left_readRun isBoundaryChar rfl ahead Nat.le.refl Nat.le.refl
      rw [List.length_cons] at run
      generalize readRun flags isBoundaryChar (more.length + 1) (char :: more) = first at run ⊢
      generalize readRun flags isBoundaryChar (left.length + 1) (char :: left) = second at run ⊢
      obtain ⟨name, back⟩ := first
      obtain ⟨_, further⟩ := second
      obtain ⟨rfl, taken, closed⟩ := run
      dsimp only at taken closed ⊢
      cases back with
      | nil => exact .error
      | cons closing back =>
        obtain ⟨rest, rfl, ends⟩ := closed.of_cons
        by_cases closes : closing = '}'
        · subst closes
          cases known : boundary? (.ofList name) with
          | none =>
            simp only [known]
            exact .error
          | some assertion =>
            simp only [known]
            refine .ok ⟨rfl, ?_, ends⟩
            exact (List.suffix_cons _ _).trans (taken.trans
              ((here ▸ flags.skip_suffix after).trans (List.suffix_cons _ _)))
        · simp only [Prod.mk.injEq, List.cons.injEq, closes, false_and, and_false, false_implies,
            implies_true]
          exact .error
    · -- The brace is left to be read as a count.
      exact .ok ⟨rfl, List.suffix_rfl, framed⟩
  · have unbraced {text : List Char} (without : ¬∃ after, text = '{' :: after) :
        readBoundary flags text = .ok (.look .wordEdge, text) := by
      unfold readBoundary
      split
      · exact absurd ⟨_, rfl⟩ without
      · rfl
    have further : ¬∃ tail, other = '{' :: tail := by
      rintro ⟨tail, rfl⟩
      obtain ⟨after, same, -⟩ := framed.to_cons (by decide)
      exact braced ⟨after, same⟩
    rw [unbraced braced, unbraced further]
    exact .ok ⟨rfl, List.suffix_rfl, framed⟩

theorem steady_readEscape (flags : Flags) : Steady flags (readEscape flags) := by
  refine .of_follows fun text other framed => ?_
  cases text with
  | nil => exact .error
  | cons char text =>
    obtain ⟨more, rfl, close⟩ := framed.of_cons
    have steady : Steady flags fun text => readEscape flags (char :: text) := by
      unfold readEscape
      by_cases hexadecimal : "xuU".toList.contains char
      · simpa only [if_pos hexadecimal] using steady_readHex flags char
      by_cases property : char = 'p' ∨ char = 'P'
      · simpa only [if_neg hexadecimal, if_pos property] using steady_readProperty flags _
      by_cases boundary : char = 'b'
      · simpa only [if_neg hexadecimal, if_neg property, if_pos boundary] using
          steady_readBoundary flags
      simp only [if_neg hexadecimal, if_neg property, if_neg boundary]
      cases escape? char with
      | none => exact steady_error _
      | some atom => exact steady_ok atom
    exact (steady.follows close).mono fun _ _ => .within (List.suffix_cons char text)

/-! ### Bounds of repetitions -/

theorem not_isBlank_parenthesis : ¬isBlank ')' := by decide +kernel

theorem steady_readCount (flags : Flags) : Steady flags (readCount flags) := by
  refine .of_follows fun text other framed => ?_
  have run := left_readRun Char.isDigit rfl
    (framed.dropWhile not_isBlank_parenthesis) (Nat.le_succ _) (Nat.le_succ _)
  simp only [readCount, ← run.value]
  refine (Follows.refl (countOf _)).bind ?_
  rintro count _ rfl
  exact .ok ⟨rfl, (List.dropWhile_suffix _).trans (run.suffix.trans (List.dropWhile_suffix _)),
    run.framed.dropWhile not_isBlank_parenthesis⟩

theorem steady_readUpperBound (flags : Flags) (least : Option Nat) :
    Steady flags (readUpperBound flags least) := by
  refine .of_follows fun text other framed => ?_
  unfold readUpperBound
  rcases framed.ahead with drained | ⟨char, after, tail, here, there, suffix, close⟩
  · rw [drained]
    exact .error
  rw [here, there]
  by_cases closes : char = '}'
  · subst closes
    cases least with
    | none => exact .error
    | some least => exact .ok ⟨rfl, suffix, close⟩
  simp only [List.cons.injEq, closes, false_and, false_implies, implies_true]
  cases least with
  | none => exact .error
  | some least =>
    have ahead : Framed flags (char :: after) (char :: tail) := here ▸ there ▸ framed.skip
    refine ((steady_readCount flags).follows ahead).bind ?_
    rintro ⟨most, rest⟩ ⟨_, more⟩ ⟨rfl, inner, near⟩
    dsimp only at inner near ⊢
    cases most with
    | none => exact .error
    | some most =>
      cases rest with
      | nil => exact .error
      | cons closing rest =>
        obtain ⟨more, rfl, ends⟩ := near.of_cons
        by_cases closed : closing = '}'
        · subst closed
          simp only
          split
          · exact .error
          · exact .ok ⟨rfl, (List.suffix_cons _ _).trans
              (inner.trans (here ▸ flags.skip_suffix text)), ends⟩
        · simp only [Prod.mk.injEq, List.cons.injEq, closed, false_and, and_false, false_implies,
            implies_true]
          exact .error

theorem steady_readBounds (flags : Flags) : Steady flags (readBounds flags) := by
  refine .of_follows fun text other framed => ?_
  unfold readBounds
  dsimp only
  rcases framed.ahead with drained | ⟨char, after, tail, here, there, suffix, close⟩
  · rw [drained]
    exact .error
  -- A brace with nothing after it is refused, and neither text ends there.
  have ahead : Framed flags (char :: after) (char :: tail) := here ▸ there ▸ framed.skip
  rw [here, there, List.isEmpty_cons, List.isEmpty_cons, if_neg Bool.false_ne_true,
    if_neg Bool.false_ne_true]
  refine ((steady_readCount flags).follows ahead).bind ?_
  rintro ⟨least, rest⟩ ⟨_, more⟩ ⟨rfl, inner, near⟩
  have within := inner.trans (here ▸ flags.skip_suffix text)
  dsimp only at within near ⊢
  cases rest with
  | nil => exact .error
  | cons char rest =>
    obtain ⟨more, rfl, ends⟩ := near.of_cons
    by_cases comma : char = ','
    · subst comma
      exact ((steady_readUpperBound flags least).follows ends).mono fun _ _ =>
        .within ((List.suffix_cons _ _).trans within)
    by_cases closes : char = '}'
    · subst closes
      cases least with
      | none => exact .error
      | some least => exact .ok ⟨rfl, (List.suffix_cons _ _).trans within, ends⟩
    simp only [List.cons.injEq, comma, closes, false_and, false_implies, implies_true]
    exact .error

end RuleLexer.Regex
