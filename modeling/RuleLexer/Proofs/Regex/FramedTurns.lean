import RuleLexer.Proofs.Regex.FramedSets

/-!
# Turns with something after them

The reader of a group goes on by turns. Every turn leaves a suffix of the text, and is the same with
the end of an assertion after the text.

## Main results

* `Reader.follows_openGroup`: so does the beginning of a group.
* `Reading.framed_turn`: so do all turns.
-/
namespace RuleLexer.Regex

/-! ### Groups -/

theorem steady_readFlags (flags : Flags) (letters : FlagLetters) :
    Steady flags (readFlags letters) := by
  refine .of_follows fun text => ?_
  induction text generalizing letters with
  | nil => exact fun other framed => .error
  | cons char text ih =>
    intro other framed
    obtain ⟨tail, rfl, close⟩ := framed.of_cons
    rw [readFlags, readFlags]
    split
    · exact .ok ⟨rfl, List.suffix_rfl, framed⟩
    · cases text with
      | nil =>
        -- The flags have not ended yet, and there is nothing left to end them.
        intro result given
        obtain ⟨letters, -, given⟩ := bind_eq_ok_iff.mp given
        cases given
      | cons next text =>
        obtain ⟨tail, rfl, -⟩ := close.of_cons
        refine (Follows.refl (letters.add char (some next))).bind ?_
        rintro letters _ rfl
        exact (ih letters close).mono fun _ _ => .within (List.suffix_cons char _)

theorem steady_readName (flags : Flags) : Steady flags readName := by
  refine .of_follows fun text other framed => ?_
  simp only [readName, drop_length_takeWhile]
  rcases framed.cut '>' (by decide) with
    ⟨uncut, -⟩ | ⟨rest, more, cut, cutThere, same, suffix, close⟩
  · rw [uncut]
    exact .error
  rw [cut, cutThere, same]
  cases text.takeWhile (· != '>') with
  | nil => exact .error
  | cons first later =>
    simp only
    split
    · exact .ok ⟨rfl, suffix, close⟩
    · exact .error

/-- The reader with another text before it. -/
def Reader.facing (reader : Reader) (rest : List Char) : Reader := { reader with rest }

namespace Reader

/-- The same group begins, and the same is left of both texts. -/
inductive Opens (text : List Char) : GroupStart × Reader → GroupStart × Reader → Prop
  | mk (start : GroupStart) (inner : Reader) {more : List Char} (suffix : inner.rest <:+ text)
    (framed : Framed inner.flags inner.rest more) :
    Opens text (start, inner) (start, inner.facing more)

variable {reader : Reader} {text other : List Char}

theorem Opens.within {whole : List Char} {result again : GroupStart × Reader}
    (suffix : text <:+ whole) (opens : Opens text result again) : Opens whole result again := by
  obtain ⟨start, inner, near, framed⟩ := opens
  exact ⟨start, inner, near.trans suffix, framed⟩

theorem follows_openNamed (framed : Framed reader.flags text other) (rest : List Char) :
    Follows (Opens text) (reader.openNamed text) ((reader.facing rest).openNamed other) := by
  refine ((steady_readName reader.flags).follows framed).bind ?_
  rintro ⟨name, back⟩ ⟨_, more⟩ ⟨rfl, suffix, close⟩
  by_cases taken : reader.names.contains name
  · simp only [taken, if_true]
    exact .error
  · simp only [facing, taken, Bool.false_eq_true, if_false]
    exact .ok ⟨_, _, suffix, close⟩

theorem follows_openFlags (reader : Reader) {flags : Flags} (framed : Framed flags text other)
    (rest : List Char) :
    Follows (Opens text) (reader.openFlags text) ((reader.facing rest).openFlags other) := by
  refine ((steady_readFlags flags _).follows framed).bind ?_
  rintro ⟨letters, back⟩ ⟨_, further⟩ ⟨rfl, suffix, close⟩
  dsimp only at suffix close ⊢
  cases back with
  | nil => exact .error
  | cons char back =>
    obtain ⟨more, rfl, left⟩ := (close.under letters.flags).of_cons
    have within : back <:+ text := (List.suffix_cons char back).trans suffix
    by_cases colon : char = ':'
    · subst colon
      exact .ok ⟨_, _, within, left⟩
    · simp only
      split
      · exact .error
      · exact .ok ⟨_, _, within, left⟩

theorem follows_openGroup (framed : Framed reader.flags text other) (rest : List Char) :
    Follows (Opens text) (reader.openGroup text) ((reader.facing rest).openGroup other) := by
  have within := reader.flags.skip_suffix text
  have ahead := framed.skip
  unfold openGroup
  rw [show (reader.facing rest).flags.skip other = reader.flags.skip other from rfl]
  generalize reader.flags.skip text = here at within ahead ⊢
  generalize reader.flags.skip other = there at ahead ⊢
  split
  · exact .error
  · exact .error
  · exact .error
  · exact .error
  · next after =>
    obtain ⟨tail, rfl, close⟩ := ahead.of_append ['?', 'P', '<']
    exact (follows_openNamed close rest).mono fun _ _ =>
      .within ((List.suffix_append ['?', 'P', '<'] after).trans within)
  · next after unequal unnegated =>
    obtain ⟨tail, rfl, close⟩ := ahead.of_append ['?', '<']
    have named := (follows_openNamed close rest).mono fun _ _ =>
      Opens.within ((List.suffix_append ['?', '<'] after).trans within)
    grind [Framed.to_cons]
  · next after unequal unnegated notLookedBehind unlooked unnamed unnamed' =>
    obtain ⟨tail, rfl, close⟩ := ahead.of_cons
    have flagged := (follows_openFlags reader close rest).mono fun _ _ =>
      Opens.within ((List.suffix_cons '?' after).trans within)
    -- The characters that would begin a name are not those that come after the text.
    have unnamedThere (rest : List Char) : tail ≠ 'P' :: '<' :: rest := by
      rintro rfl
      obtain ⟨rest, rfl, -⟩ := close.to_append ['P', '<'] (by decide)
      exact unnamed _ rfl
    grind [Framed.to_cons]
  · next plain =>
    -- A question mark after the parenthesis would be in the text.
    have again := Follows.ok (ε := SourceError) (Opens.mk (.capture (reader.captures + 1))
      { reader with rest := here, captures := reader.captures + 1 } within ahead)
    split <;> grind [Framed.to_cons, Reader.facing]

end Reader

/-! ### Turns -/

/-- The group with another text before the reader. -/
def Reading.facing (reading : Reading) (rest : List Char) : Reading :=
  { reading with reader := reading.reader.facing rest }

namespace Turn

/-- Where a turn leaves the reader. -/
def reader : Turn → Reader
  | close reader => reader
  | next reading => reading.reader
  | group _ inner => inner

/-- The turn with another text left. -/
def facing (turn : Turn) (rest : List Char) : Turn :=
  match turn with
  | close reader => close (reader.facing rest)
  | next reading => next (reading.facing rest)
  | group index inner => group index (inner.facing rest)

end Turn

theorem lazyMark_suffix (text : List Char) : (lazyMark text).2 <:+ text := by
  unfold lazyMark
  split
  · exact List.suffix_cons _ _
  · exact List.suffix_rfl

theorem lazyMark_framed {text other : List Char} (framed : Framed flags text other) :
    (lazyMark other).1 = (lazyMark text).1 ∧ Framed flags (lazyMark text).2 (lazyMark other).2 := by
  by_cases lazy : ∃ rest, text = '?' :: rest
  · obtain ⟨rest, rfl⟩ := lazy
    obtain ⟨more, rfl, close⟩ := framed.of_cons
    exact ⟨rfl, close⟩
  · have eager {text : List Char} (eager : ¬∃ rest, text = '?' :: rest) :
        lazyMark text = (false, text) := by
      unfold lazyMark
      split
      · exact absurd ⟨_, rfl⟩ eager
      · rfl
    rw [eager lazy, eager ?_]
    · exact ⟨rfl, framed⟩
    · rintro ⟨tail, rfl⟩
      obtain ⟨after, same, -⟩ := framed.to_cons (by decide)
      exact lazy ⟨after, same⟩

namespace Turn

/-- The same is come upon, and the same is left of both texts. -/
inductive Resumes (text : List Char) : Turn → Turn → Prop
  | mk (turn : Turn) {more : List Char} (suffix : turn.reader.rest <:+ text)
    (framed : Framed turn.reader.flags turn.reader.rest more) :
    Resumes text turn (turn.facing more)

theorem Resumes.within {text whole : List Char} {turn again : Turn} (suffix : text <:+ whole)
    (resumes : Resumes text turn again) : Resumes whole turn again := by
  obtain ⟨near, framed⟩ := resumes
  exact .mk turn (near.trans suffix) framed

end Turn

namespace Reading

open Turn (Resumes)

variable {reading : Reading} {text other : List Char}

theorem follows_operator (reading : Reading) (framed : Framed reading.reader.flags text other)
    (least : Nat) (most : Option Nat) (rest : List Char) :
    Follows (Resumes text) (reading.operator least most text)
      ((reading.facing rest).operator least most other) := by
  obtain ⟨mark, close⟩ := lazyMark_framed framed
  unfold operator
  dsimp only
  rw [mark]
  refine (Follows.refl (repeatLatest reading.reader.flags least most _ reading.pieces)).bind ?_
  rintro pieces _ rfl
  exact .ok (.mk (.next _) (lazyMark_suffix text) close)

theorem follows_opened (framed : Framed reading.reader.flags text other) (rest : List Char) :
    Follows (Resumes text) (reading.opened text) ((reading.facing rest).opened other) := by
  refine (Reader.follows_openGroup framed rest).bind ?_
  rintro _ _ ⟨start, inner, suffix, close⟩
  cases start with
  | capture index => exact .ok (.mk (.group (some index) inner) suffix close)
  | plain => exact .ok (.mk (.group none inner) suffix close)
  | flags => exact .ok (.mk (.next (reading.push (none, 0) inner)) suffix close)

theorem follows_begun (framed : Framed reading.reader.flags text other) (char : Char)
    (rest : List Char) :
    Follows (Resumes text) (reading.begun char text) ((reading.facing rest).begun char other) := by
  unfold begun
  dsimp only
  split
  · exact .ok (.mk (.next _) List.suffix_rfl framed)
  · exact follows_opened framed rest
  · refine ((steady_readSetStart _).follows framed).bind ?_
    rintro ⟨⟨negated, items⟩, body⟩ ⟨_, further⟩ ⟨rfl, near, close⟩
    -- The set is given more fuel, since there is more text.
    refine (readSet_follows close (Nat.succ_le_succ close.length_le)).bind ?_
    rintro ⟨set, back⟩ ⟨_, more⟩ ⟨rfl, suffix, left⟩
    exact .ok (.mk (reading.piece _ _ back) (suffix.trans near) left)
  · exact follows_operator reading framed _ _ rest
  · exact follows_operator reading framed _ _ rest
  · exact follows_operator reading framed _ _ rest
  · by_cases operand : (reading.pieces.head?.bind (·.1)).isNone
    · simp only [operand, if_true]
      exact .error
    · simp only [facing, operand, Bool.false_eq_true, if_false]
      refine ((steady_readBounds _).follows framed).bind ?_
      rintro ⟨⟨least, most⟩, back⟩ ⟨_, further⟩ ⟨rfl, near, close⟩
      exact (follows_operator reading close.skip least most rest).mono fun _ _ =>
        .within ((Flags.skip_suffix _ back).trans near)
  · refine ((steady_readEscape _).follows framed).bind ?_
    rintro ⟨atom, back⟩ ⟨_, further⟩ ⟨rfl, suffix, close⟩
    refine (Follows.refl (reading.reader.flags.atom atom)).bind ?_
    rintro expr _ rfl
    exact .ok (.mk (reading.piece expr 0 back) suffix close)
  · refine (Follows.refl (reading.reader.flags.single _)).bind ?_
    rintro expr _ rfl
    exact .ok (.mk (reading.piece expr 0 text) List.suffix_rfl framed)

/-- A turn either ends the group or takes a character and what belongs to it. With the end of an
assertion after the text it is the same. -/
theorem framed_turn {reading : Reading} {turn : Turn} (turned : reading.turn = .ok turn) :
    (turn = .close (reading.reader.facing (reading.reader.flags.skip reading.reader.rest)) ∨
      ∃ char after, reading.reader.flags.skip reading.reader.rest = char :: after ∧
        turn.reader.rest <:+ after) ∧
    ∀ ⦃other⦄, Framed reading.reader.flags reading.reader.rest other →
      ∃ more, (reading.facing other).turn = .ok (turn.facing more) ∧
        Framed turn.reader.flags turn.reader.rest more := by
  -- What is after the first character is all that the two texts may differ in.
  have seen {char : Char} {after other : List Char}
      (skipped : reading.reader.flags.skip reading.reader.rest = char :: after)
      (framed : Framed reading.reader.flags reading.reader.rest other) :
      ∃ tail, (reading.facing other).reader.flags.skip (reading.facing other).reader.rest =
        char :: tail ∧ Framed reading.reader.flags after tail := framed.skip_cons skipped
  unfold Reading.turn at turned
  split at turned
  · next skipped =>
    cases turned
    refine ⟨.inl (by rw [skipped]; rfl), fun other framed => ?_⟩
    have close : Framed reading.reader.flags [] ((reading.facing other).reader.flags.skip
        (reading.facing other).reader.rest) := skipped ▸ framed.skip
    refine ⟨_, ?_, close⟩
    unfold Reading.turn
    rcases close.of_nil with goesOn | ⟨-, goesOn⟩ <;> rw [goesOn] <;> rfl
  · next after skipped =>
    cases turned
    refine ⟨.inl (by rw [skipped]; rfl), fun other framed => ?_⟩
    obtain ⟨tail, goesOn, -⟩ := seen skipped framed
    refine ⟨')' :: tail, ?_, goesOn ▸ skipped ▸ framed.skip⟩
    unfold Reading.turn
    rw [goesOn]
    rfl
  · next char after within skipped =>
    refine ⟨.inr ⟨char, after, skipped, ?_⟩, fun other framed => ?_⟩
    · obtain ⟨_, -, suffix, -⟩ := follows_begun (.ended after) char [] turned
      exact suffix
    obtain ⟨tail, goesOn, close⟩ := seen skipped framed
    obtain ⟨_, again, -, left⟩ := follows_begun close char other turned
    refine ⟨_, ?_, left⟩
    unfold Reading.turn
    rw [goesOn]
    split
    · next same => cases same
    · next same =>
      cases same
      exact absurd rfl within
    · next same =>
      cases same
      exact again

end Reading

end RuleLexer.Regex
