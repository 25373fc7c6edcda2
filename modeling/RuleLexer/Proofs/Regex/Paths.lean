import Mathlib.Data.List.Induction
import RuleLexer.Proofs.Regex.Extent

/-!
# Ways through programs

A search follows outcomes and drops threads that cannot become the preferred match. What it is that
a program matches can be said without a search: `Program.Matches` has a clause for each kind of
program and knows neither labels nor preferences. A search reports one of these ways only, so the
converse does not hold; but whatever is true of all ways through a program is true of its matches.

## Main results

* `Program.exists_matches_of_run`: a search reports a way through its program.
* `Pattern.exists_matches_of_matchHere?`: so does a pattern, at a place that its look-behind allows.
-/
namespace RuleLexer

open Text

namespace Regex

theorem lastOf_eq (previous : Option Char) (front : List Char) :
    lastOf previous front = front.getLast?.or previous := by
  induction front using List.reverseRecOn with
  | nil => rfl
  | append_singleton front char _ => simp [lastOf_append, lastOf]

/-- The character before a place is the nearest of the characters before it. -/
theorem lastOf_head? (before front : List Char) :
    lastOf before.head? front = (front.reverse ++ before).head? := by
  rw [lastOf_eq, List.head?_append, List.head?_reverse]

/-- A program goes through a piece of text, from a place that is given by the character before it
and its offset, and records groups on the way. The text that follows the piece is there for the
assertions to see. -/
inductive Program.Matches :
    Program → Option Char → Nat → Groups → List Char → List Char → Groups → Prop
  | done {previous offset groups back} : Matches done previous offset groups [] back groups
  | literal {chars previous offset groups back} :
    Matches (literal chars) previous offset groups chars back groups
  | set {chars previous offset groups char back} (member : chars.contains char) :
    Matches (set chars) previous offset groups [char] back groups
  | look {assertion previous offset groups back} (holds : assertion.holds ⟨previous, back.head?⟩) :
    Matches (look assertion) previous offset groups [] back groups
  | seq {first second previous offset groups between later near far back}
    (head : Matches first previous offset groups near (far ++ back) between)
    (tail : Matches second (lastOf previous near) (offset + byteLength near) between far back
      later) :
    Matches (seq first second) previous offset groups (near ++ far) back later
  | preferred {preferred other previous offset groups front back later}
    (way : Matches preferred previous offset groups front back later) :
    Matches (alt preferred other) previous offset groups front back later
  | other {preferred other previous offset groups front back later}
    (way : Matches other previous offset groups front back later) :
    Matches (alt preferred other) previous offset groups front back later
  | mark {label body previous offset groups front back later}
    (way : Matches body previous offset groups front back later) :
    Matches (mark label body) previous offset groups front back later
  | enough {label greedy body previous offset groups back} :
    Matches (rounds label greedy body) previous offset groups [] back groups
  | further {label greedy body previous offset groups between later near far back}
    (head : Matches body previous offset groups near (far ++ back) between)
    (tail : Matches (rounds label greedy body) (lastOf previous near) (offset + byteLength near)
      between far back later) :
    Matches (rounds label greedy body) previous offset groups (near ++ far) back later
  | openGroup {group previous offset groups back} :
    Matches (openGroup group) previous offset groups [] back (groups.openAt group offset)
  | closeGroup {group previous offset groups back} :
    Matches (closeGroup group) previous offset groups [] back (groups.closeAt group offset)

/-- What an outcome says about the program that has it, at a place of a text: the program is through
there, or it goes on behind the next character in every way that the rest does. -/
def Outcome.Leads (program : Program) (previous : Option Char) (offset : Nat) (groups : Groups)
    (text : List Char) : Outcome → Prop
  | finish _ later => program.Matches previous offset groups [] text later
  | step rest between => ∃ char after, text = char :: after ∧ ∀ front back later,
      after = front ++ back →
      rest.Matches (some char) (offset + char.utf8Size) between front back later →
      program.Matches previous offset groups (char :: front) back later

variable {program first second : Program} {previous : Option Char} {offset : Nat}
  {groups between later : Groups} {front back text : List Char}

theorem Program.matches_seq_iff :
    (first.seq second).Matches previous offset groups front back later ↔
      ∃ near far between, front = near ++ far ∧
        first.Matches previous offset groups near (far ++ back) between ∧
        second.Matches (lastOf previous near) (offset + byteLength near) between far back
          later := by
  constructor
  · intro way
    cases way with
    | seq head tail => exact ⟨_, _, _, rfl, head, tail⟩
  · rintro ⟨near, far, between, rfl, head, tail⟩
    exact .seq head tail

theorem Program.matches_andThen_iff :
    (first.andThen second).Matches previous offset groups front back later ↔
      ∃ near far between, front = near ++ far ∧
        first.Matches previous offset groups near (far ++ back) between ∧
        second.Matches (lastOf previous near) (offset + byteLength near) between far back
          later := by
  unfold andThen
  split
  · constructor
    · intro way
      exact ⟨[], front, groups, rfl, .done, way⟩
    · rintro ⟨near, far, between, rfl, head, tail⟩
      cases head
      exact tail
  · exact matches_seq_iff

/-! ### One place -/

/-- Whatever an outcome says about one program it says about another one that goes through every
piece of the text that the first one goes through. -/
theorem Outcome.Leads.mono {outcome : Outcome}
    (leads : outcome.Leads first previous offset between text)
    (every : ∀ front back later, text = front ++ back →
      first.Matches previous offset between front back later →
      second.Matches previous offset groups front back later) :
    outcome.Leads second previous offset groups text := by
  cases outcome with
  | finish _ later => exact every [] text later rfl leads
  | step rest between =>
    obtain ⟨char, after, rfl, leads⟩ := leads
    refine ⟨char, after, rfl, ?_⟩
    rintro front back later rfl way
    exact every (char :: front) back later rfl (leads front back later rfl way)

/-- If a program leads on to a rest, it leads on to the rest with another program after it. -/
theorem Outcome.Leads.andThen {rest : Program}
    (leads : (Outcome.step rest between).Leads first previous offset groups text) :
    (Outcome.step (rest.andThen second) between).Leads (first.seq second) previous offset groups
      text := by
  obtain ⟨char, after, rfl, leads⟩ := leads
  refine ⟨char, after, rfl, ?_⟩
  rintro front back later rfl way
  obtain ⟨near, far, middle, rfl, head, tail⟩ := Program.matches_andThen_iff.mp way
  have whole := leads near (far ++ back) middle (by simp) head
  rw [Nat.add_assoc] at tail
  exact Program.matches_seq_iff.mpr ⟨char :: near, far, middle, rfl, whole, tail⟩

namespace Program

/-- **One place.** Each outcome of a program leads through it. -/
theorem Yields.leads {program : Program} {passed : List Nat} {outcome : Outcome}
    (yields : program.Yields ⟨⟨previous, text.head?⟩, offset, text.head?⟩ passed groups outcome) :
    outcome.Leads program previous offset groups text := by
  -- Behind the character that is consumed nothing of the program is left, or a shorter literal.
  have consumed {char : Char} {program rest : Program} {groups : Groups}
      (here : text.head? = some char)
      (goesOn : ∀ front back later,
        rest.Matches (some char) (offset + char.utf8Size) groups front back later →
        program.Matches previous offset groups (char :: front) back later) :
      (Outcome.step rest groups).Leads program previous offset groups text := by
    obtain ⟨after, rfl⟩ := List.head?_eq_some_iff.mp here
    exact ⟨char, after, rfl, fun front back later _ => goesOn front back later⟩
  induction yields with
  | done => exact Matches.done
  | spelled => exact Matches.literal
  | last here | spell here =>
    refine consumed here fun front back later way => ?_
    cases way
    exact .literal
  | set here member =>
    refine consumed here fun front back later way => ?_
    cases way
    exact .set member
  | look holds => exact Matches.look holds
  | through head tail ihHead ihTail =>
    -- The first part goes through nothing, so the second one goes through everything.
    refine ihTail.mono ?_
    rintro front back later rfl way
    exact matches_seq_iff.mpr ⟨[], front, _, rfl, ihHead, way⟩
  | onwards head ih => exact ih.andThen
  | preferred way ih => exact ih.mono fun _ _ _ _ => .preferred
  | other way ih => exact ih.mono fun _ _ _ _ => .other
  | mark fresh way ih => exact ih.mono fun _ _ _ _ => .mark
  | enough fresh => exact Matches.enough
  | further fresh way ih =>
    -- A round and the rounds after it are rounds.
    refine ih.andThen.mono ?_
    rintro front back later rfl way
    obtain ⟨near, far, middle, rfl, head, tail⟩ := matches_seq_iff.mp way
    exact .further head tail
  | openGroup => exact Matches.openGroup
  | closeGroup => exact Matches.closeGroup

end Program

/-! ### A whole search -/

/-- A search has found a way through a program, which ends where a piece of the text does. -/
def Success.Goes (program : Program) (previous : Option Char) (text : List Char)
    (found : Success) : Prop :=
  ∃ front back, text = front ++ back ∧ byteLength front = found.stop ∧
    program.Matches previous 0 .none front back found.groups

/-- A thread stands behind a piece of text: in whatever way it goes on from there, the program goes
through the piece and goes on in this way. -/
def Thread.Serves (program : Program) (previous : Option Char) (done rest : List Char)
    (thread : Thread) : Prop :=
  ∀ front back later, rest = front ++ back →
    thread.program.Matches (lastOf previous done) (byteLength done) thread.groups front back later →
    program.Matches previous 0 .none (done ++ front) back later

/-- A search reports a way through its program. -/
theorem Program.exists_matches_of_run {found : Success}
    (run : program.run previous text = some found) :
    ∃ front back, text = front ++ back ∧ byteLength front = found.stop ∧
      program.Matches previous 0 .none front back found.groups := by
  refine run_forall (Thread.Serves program previous) (Success.Goes program previous text) ?_ ?_ ?_
    run
  · intro front back later _ way
    exact way
  · rintro done char rest thread next later rfl serves yields
    obtain ⟨_, _, same, leads⟩ := yields.leads
    cases same
    rintro front back final rfl way
    -- The thread before this one goes on with the character and then with the way.
    rw [lastOf_append, byteLength_append] at way
    have whole := serves (char :: front) back final rfl (leads front back final rfl way)
    simpa using whole
  · rintro done rest thread passed later rfl serves yields
    have whole := serves [] rest later rfl yields.leads
    exact ⟨done, rest, rfl, rfl, by simpa using whole⟩

end Regex

/-- A pattern reports a way through its program, at a place that its look-behind allows. -/
theorem Pattern.exists_matches_of_matchHere? {pattern : Pattern} {before after : List Char}
    {found : Match} (matched : pattern.matchHere? before after = some found) :
    (∀ lookbehind ∈ pattern.lookbehind, lookbehind.allows before) ∧
      ∃ front back later, after = front ++ back ∧ byteLength front = found.stop ∧
        pattern.program.Matches before.head? 0 .none front back later ∧
        found.groups = (List.range pattern.groupCount).map fun index => later.get? (index + 1) := by
  unfold matchHere? at matched
  split at matched
  next allowed =>
    obtain ⟨success, run, rfl⟩ := Option.map_eq_some_iff.mp matched
    obtain ⟨front, back, split, size, way⟩ := Regex.Program.exists_matches_of_run run
    refine ⟨?_, front, back, success.groups, split, size, way, rfl⟩
    intro lookbehind present
    rw [Option.mem_def.mp present] at allowed
    exact allowed
  · cases matched

/-- The same for the piece of the text that is as long as the match. -/
theorem Pattern.matches_of_matchHere? {pattern : Pattern} {before front back : List Char}
    {found : Match} (matched : pattern.matchHere? before (front ++ back) = some found)
    (size : byteLength front = found.stop) :
    ∃ later, pattern.program.Matches before.head? 0 .none front back later := by
  obtain ⟨-, near, far, later, split, stop, way, -⟩ := exists_matches_of_matchHere? matched
  obtain ⟨rfl, rfl⟩ := append_inj_of_byteLength_eq split (size.trans stop.symm)
  exact ⟨later, way⟩

end RuleLexer
