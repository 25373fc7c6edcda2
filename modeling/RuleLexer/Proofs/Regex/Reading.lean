import RuleLexer.Proofs.Regex.FramedTurns

/-!
# Readings of patterns

A group is read turn by turn up to its end, and a group within it is read in the same way. `Reads`
says this without fuel. Which turns may be taken is left open, so that a property of a pattern can
be what all of its turns have in common.

## Main results

* `readBranches_eq_ok_iff`: with enough fuel the reader takes exactly these turns.
* `Reads.framed`: with the end of an assertion after the text a group is read in the same way.
* `ofSource_wholeAssertion`: an assertion followed by the end of the text denotes its own expression
  and then the end.
-/
namespace RuleLexer.Regex

/-- A group is read to its end through turns that are allowed. -/
inductive Reads (allowed : Reading → Turn → Prop) : Reading → Nested Expr → Reader → Prop
  | close {reading : Reading} {final : Reader} (turned : reading.turn = .ok (.close final))
    (fits : allowed reading (.close final)) : Reads allowed reading reading.result final
  | next {reading later : Reading} {result : Nested Expr} {final : Reader}
    (turned : reading.turn = .ok (.next later)) (fits : allowed reading (.next later))
    (onwards : Reads allowed later result final) : Reads allowed reading result final
  | group {reading : Reading} {index : Option Nat} {inner after : Reader} {rest : List Char}
    {body result : Nested Expr} {final : Reader} (turned : reading.turn = .ok (.group index inner))
    (fits : allowed reading (.group index inner))
    (contents : Reads allowed (.start inner) body after) (closed : after.rest = ')' :: rest)
    (onwards : Reads allowed (reading.leave index body (after.facing rest)) result final) :
    Reads allowed reading result final

/-- A group is read to its end. -/
abbrev ReadsTo : Reading → Nested Expr → Reader → Prop := Reads fun _ _ => True

namespace Reading

variable {reading : Reading} {turn : Turn}

theorem turn_suffix (turned : reading.turn = .ok turn) :
    turn.reader.rest <:+ reading.reader.rest := by
  rcases (Reading.framed_turn turned).1 with rfl | ⟨char, after, skipped, suffix⟩
  · exact Flags.skip_suffix _ _
  · exact suffix.trans (Flags.suffix_of_skip skipped)

theorem turn_shorter (turned : reading.turn = .ok turn) (goesOn : ∀ final, turn ≠ .close final) :
    turn.reader.rest.length < reading.reader.rest.length := by
  rcases (Reading.framed_turn turned).1 with closes | ⟨char, after, skipped, suffix⟩
  · exact absurd closes (goesOn _)
  · have left := suffix.length_le
    have taken := (reading.reader.flags.skip_suffix reading.reader.rest).length_le
    rw [skipped, List.length_cons] at taken
    omega

end Reading

variable {allowed : Reading → Turn → Prop} {reading : Reading} {result : Nested Expr}
  {final : Reader}

theorem Reads.exists_turn (reads : Reads allowed reading result final) :
    ∃ turn, reading.turn = .ok turn ∧ allowed reading turn := by
  cases reads with
  | close turned fits => exact ⟨_, turned, fits⟩
  | next turned fits => exact ⟨_, turned, fits⟩
  | group turned fits => exact ⟨_, turned, fits⟩

theorem Reads.suffix (reads : Reads allowed reading result final) :
    final.rest <:+ reading.reader.rest := by
  induction reads with
  | close turned => exact Reading.turn_suffix turned
  | next turned fits onwards ih => exact ih.trans (Reading.turn_suffix turned)
  | group turned fits contents closed onwards innerwards ih =>
    exact ih.trans (((List.suffix_cons _ _).trans (closed ▸ innerwards)).trans
      (Reading.turn_suffix turned))

/-- With enough fuel the reader takes all turns up to the end of the group. -/
theorem readBranches_eq_ok_iff {fuel : Nat} (enough : reading.reader.rest.length < fuel) :
    readBranches fuel reading = .ok (result, final) ↔ ReadsTo reading result final := by
  constructor
  · intro read
    -- Every turn but the last takes a character, so the fuel lasts to the end of the group.
    induction fuel generalizing reading result final with
    | zero => exact absurd enough (Nat.not_lt_zero _)
    | succ fuel ih =>
      obtain ⟨turn, turned, read⟩ := bind_eq_ok_iff.mp read
      cases turn with
      | close reader =>
        cases read
        exact .close turned trivial
      | next later =>
        have shorter := Reading.turn_shorter turned nofun
        exact .next turned trivial (ih (Nat.lt_of_lt_of_le shorter (Nat.le_of_lt_succ enough)) read)
      | group index inner =>
        have shorter : inner.rest.length < fuel :=
          Nat.lt_of_lt_of_le (Reading.turn_shorter turned nofun) (Nat.le_of_lt_succ enough)
        obtain ⟨⟨body, after⟩, contents, read⟩ := bind_eq_ok_iff.mp read
        dsimp only at read
        split at read
        · next rest closed =>
          -- What comes after the group within is shorter by its parenthesis.
          have contents := ih shorter contents
          have left : (')' :: rest).length ≤ inner.rest.length :=
            closed ▸ contents.suffix.length_le
          exact .group turned trivial contents closed (ih (Nat.lt_trans left shorter) read)
        · cases read
  · intro reads
    induction reads generalizing fuel with
    | close turned =>
      obtain ⟨fuel, rfl⟩ := Nat.exists_eq_add_of_lt enough
      rw [readBranches, turned]
      rfl
    | next turned fits onwards ih =>
      obtain ⟨fuel, rfl⟩ := Nat.exists_eq_add_of_lt enough
      have shorter := Reading.turn_shorter turned nofun
      rw [readBranches, turned]
      exact ih (Nat.lt_of_lt_of_le shorter (Nat.le_add_right _ _))
    | @group reading index inner after rest body result final turned fits contents closed onwards
        innerwards ih =>
      obtain ⟨fuel, rfl⟩ := Nat.exists_eq_add_of_lt enough
      have shorter : inner.rest.length < reading.reader.rest.length + fuel :=
        Nat.lt_of_lt_of_le (Reading.turn_shorter turned nofun) (Nat.le_add_right _ _)
      have left : (')' :: rest).length ≤ inner.rest.length := closed ▸ contents.suffix.length_le
      rw [readBranches, turned]
      simp only [bind, Except.bind, innerwards shorter, closed]
      exact ih (Nat.lt_trans left shorter)

/-- There is one way to read a group. -/
theorem ReadsTo.unique {other : Nested Expr} {finally' : Reader}
    (reads : ReadsTo reading result final) (again : ReadsTo reading other finally') :
    other = result ∧ finally' = final := by
  have first := (readBranches_eq_ok_iff (Nat.lt_succ_self _)).mpr reads
  have second := (readBranches_eq_ok_iff (Nat.lt_succ_self _)).mpr again
  rw [first] at second
  cases second
  exact ⟨rfl, rfl⟩

theorem Reads.readsTo (reads : Reads allowed reading result final) :
    ReadsTo reading result final := by
  induction reads with
  | close turned => exact .close turned trivial
  | next turned fits onwards ih => exact .next turned trivial ih
  | group turned fits contents closed onwards innerwards ih =>
    exact .group turned trivial innerwards closed ih

/-- With the end of an assertion after the text a group is read in the same way. -/
theorem Reads.framed (reads : Reads allowed reading result final) {other : List Char}
    (framed : Framed reading.reader.flags reading.reader.rest other) :
    ∃ more, ReadsTo (reading.facing other) result (final.facing more) ∧
      Framed final.flags final.rest more := by
  induction reads generalizing other with
  | close turned =>
    obtain ⟨more, again, left⟩ := (Reading.framed_turn turned).2 framed
    exact ⟨more, .close again trivial, left⟩
  | next turned fits onwards ih =>
    obtain ⟨tail, again, close⟩ := (Reading.framed_turn turned).2 framed
    obtain ⟨more, further, left⟩ := ih close
    exact ⟨more, .next again trivial further, left⟩
  | group turned fits contents closed onwards innerwards ih =>
    obtain ⟨tail, again, close⟩ := (Reading.framed_turn turned).2 framed
    obtain ⟨_, inner, closing⟩ := innerwards close
    -- The group within ends with a parenthesis of the text, not with the one after it.
    rw [closed] at closing
    obtain ⟨tail, rfl, after⟩ := (closing.under _).of_cons
    obtain ⟨more, further, left⟩ := ih after
    exact ⟨more, .group again trivial inner rfl further, left⟩

/-! ### Assertions -/

/-- The end of the text closes the outermost group. -/
theorem Reading.turn_of_drained (drained : reading.reader.flags.skip reading.reader.rest = []) :
    reading.turn = .ok (.close (reading.reader.facing [])) := by
  rw [turn, drained]
  rfl

/-- An assertion as it is read: a group, and the end of the text after it. -/
def wholeAssertion (text : List Char) : List Char := '(' :: '?' :: ':' :: (text ++ assertionEnd)

variable {flags : Flags} {text : List Char}

/-- A pattern may begin with a group that captures nothing. -/
theorem turn_plainGroup (plain : flags.ignoreBlanks = false) :
    (Reading.start ⟨'(' :: '?' :: ':' :: text, flags, 0, []⟩).turn =
      .ok (.group none ⟨text, flags, 0, []⟩) := by
  simp [Reading.turn, Reading.start, Flags.skip_eq plain, Reading.begun, Reading.opened,
    Reader.openGroup, Reader.openFlags, readFlags, bind, Except.bind, pure, Except.pure]

theorem turn_wholeAssertion (plain : flags.ignoreBlanks = false) :
    (Reading.start ⟨wholeAssertion text, flags, 0, []⟩).turn =
      .ok (.group none ⟨text ++ assertionEnd, flags, 0, []⟩) := turn_plainGroup plain

/-- The end of the text is the last piece. -/
theorem readsTo_textEnd (plain : reading.reader.flags.ignoreBlanks = false)
    (left : reading.reader.rest = ['\\', 'z']) :
    ReadsTo reading (reading.push (some (.look .textEnd), 0) reading.reader).result
      (reading.reader.facing []) := by
  have piece : reading.turn =
      .ok (.next (reading.push (some (.look .textEnd), 0) (reading.reader.facing []))) := by
    rw [Reading.turn, left, Flags.skip_eq plain]
    rfl
  exact .next piece trivial (.close (Reading.turn_of_drained (Flags.skip_eq plain [])) trivial)

/-- If an assertion is left off where its text ends, it is one piece before the end of the text. -/
theorem readsTo_wholeAssertion (plain : flags.ignoreBlanks = false) {body : Nested Expr}
    {after : Reader}
    (contents : ReadsTo (.start ⟨text ++ assertionEnd, flags, 0, []⟩) body
      (after.facing assertionEnd)) :
    ReadsTo (.start ⟨wholeAssertion text, flags, 0, []⟩)
      ⟨.sequence [body.value, .look .textEnd], body.depth + 2⟩
      { after with rest := [], flags } := by
  have onwards : ReadsTo ((Reading.start ⟨wholeAssertion text, flags, 0, []⟩).leave none body
      (after.facing ['\\', 'z'])) _ _ := readsTo_textEnd plain rfl
  have depth : max (max 0 0) (body.depth + 1) + 1 = body.depth + 2 := by omega
  have result : Reading.result (((Reading.start ⟨wholeAssertion text, flags, 0, []⟩).leave none body
      (after.facing ['\\', 'z'])).push (some (.look .textEnd), 0)
      { after with rest := ['\\', 'z'], flags }) =
      ⟨.sequence [body.value, .look .textEnd], body.depth + 2⟩ := congrArg (Nested.mk _) depth
  exact .group (turn_wholeAssertion plain) trivial contents rfl (result ▸ onwards)

/-- The expression of a whole pattern is read by turns, and no parenthesis is left over. -/
theorem ofSource_eq_ok_iff {source : List Char} {expr : Expr} :
    Expr.ofSource flags source = .ok expr ↔ ∃ result final,
      ReadsTo (.start ⟨source, flags, 0, []⟩) result final ∧ final.rest = [] ∧
        result.depth ≤ nestLimit ∧ result.value = expr := by
  unfold Expr.ofSource
  rw [bind_eq_ok_iff]
  constructor
  · rintro ⟨⟨result, final⟩, read, checked⟩
    dsimp only at checked
    split at checked
    · cases checked
    · next whole =>
      split at checked
      · cases checked
      · next shallow =>
        cases checked
        exact ⟨result, final, (readBranches_eq_ok_iff (Nat.lt_succ_self _)).mp read,
          by simpa using whole, Nat.le_of_not_lt shallow, rfl⟩
  · rintro ⟨result, final, reads, whole, shallow, rfl⟩
    refine ⟨(result, final), (readBranches_eq_ok_iff (Nat.lt_succ_self _)).mpr reads, ?_⟩
    simp only [whole]
    rw [if_neg (by simp), if_neg (Nat.not_lt.mpr shallow)]
    rfl

/-- Whatever an assertion denotes on its own comes before the end of the text, if the assertion can
be read with the end after it. -/
theorem ofSource_wholeAssertion (plain : flags.ignoreBlanks = false) {expr whole : Expr}
    (alone : Expr.ofSource flags text = .ok expr)
    (read : Expr.ofSource flags (wholeAssertion text) = .ok whole) :
    whole = .sequence [expr, .look .textEnd] := by
  obtain ⟨result, final, reads, drained, -, rfl⟩ := ofSource_eq_ok_iff.mp alone
  obtain ⟨outer, finally', readsWhole, -, -, rfl⟩ := ofSource_eq_ok_iff.mp read
  obtain ⟨more, contents, left⟩ := reads.framed (.ended text)
  have closing : more = assertionEnd := by
    rw [drained] at left
    refine left.of_nil.resolve_right ?_
    rintro ⟨-, rfl⟩
    -- A comment that takes the parenthesis with it leaves the group open.
    have turned := @turn_wholeAssertion _ text plain
    cases readsWhole with
    | close other => exact nomatch other.symm.trans turned
    | next other => exact nomatch other.symm.trans turned
    | group other fits inner closed onwards =>
      cases other.symm.trans turned
      rw [(contents.unique inner).2] at closed
      cases closed
  subst closing
  rw [(readsTo_wholeAssertion plain contents).unique readsWhole |>.1]

end RuleLexer.Regex
