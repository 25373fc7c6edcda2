import RuleLexer.Proofs.Regex.Paths

/-!
# What every match of a program begins and ends with

Some things that are true of every way through a program can be read off the program: whether it
consumes a character at all, among which characters the first and the last one are, which characters
it never consumes, whether it has to satisfy an assertion at its end, and whether it leaves the
groups alone. Each is a function that can be computed, and says only what it is sure of: an answer
`false` means nothing.

## Main results

* `Program.Matches.head?_of_startsIn`, `Program.Matches.getLast?_of_endsIn`: the first and the last
  character of a match.
* `Program.Matches.notMem_of_lacks`: a character that is not in a match.
* `Program.Matches.holds_of_endsAt`: the assertion at the end of a match.
* `Program.Matches.group`: the extent of a group is the extent of what is in it.
* `Program.Takes.seq`, `Program.Takes.alt`: what programs take wherever they stand.
-/
namespace RuleLexer

open Text

/-- Whether a property holds of all characters of a set, one after the other. -/
def CharSet.all (property : Char → Bool) (set : CharSet) : Bool :=
  set.ranges.all fun range =>
    (List.range' range.1 (range.2 + 1 - range.1)).all fun value => property (Char.ofNat value)

theorem CharSet.of_all {property : Char → Bool} {set : CharSet} (all : set.all property)
    {char : Char} (member : set.contains char) : property char := by
  obtain ⟨ranges⟩ := set
  change inRanges char.toNat ranges at member
  change (ranges.all _ : Bool) at all
  induction ranges with
  | nil => cases member
  | cons range rest ih =>
    obtain ⟨low, high⟩ := range
    rw [List.all_cons, Bool.and_eq_true] at all
    rw [inRanges] at member
    split at member
    · cases member
    split at member
    · have among : char.toNat ∈ List.range' low (high + 1 - low) := by
        rw [List.mem_range'_1]
        omega
      simpa using List.all_eq_true.mp all.1 _ among
    · exact ih member all.2

namespace Regex

namespace Program

/-- Whether every way through a program consumes a character. -/
def mustConsume : Program → Bool
  | literal chars => !chars.isEmpty
  | set _ => true
  | seq first second => first.mustConsume || second.mustConsume
  | alt preferred other => preferred.mustConsume && other.mustConsume
  | mark _ body => body.mustConsume
  | done | look _ | rounds _ _ _ | openGroup _ | closeGroup _ => false

/-- Whether the first character that a program consumes, if any, has a property. -/
def startsIn (property : Char → Bool) : Program → Bool
  | literal chars => chars.head?.all property
  | set chars => chars.all property
  | seq first second =>
    first.startsIn property && (first.mustConsume || second.startsIn property)
  | alt preferred other => preferred.startsIn property && other.startsIn property
  | mark _ body | rounds _ _ body => body.startsIn property
  | done | look _ | openGroup _ | closeGroup _ => true

/-- Whether the last character that a program consumes, if any, has a property. -/
def endsIn (property : Char → Bool) : Program → Bool
  | literal chars => chars.getLast?.all property
  | set chars => chars.all property
  | seq first second =>
    second.endsIn property && (second.mustConsume || first.endsIn property)
  | alt preferred other => preferred.endsIn property && other.endsIn property
  | mark _ body | rounds _ _ body => body.endsIn property
  | done | look _ | openGroup _ | closeGroup _ => true

/-- Whether every way through a program satisfies an assertion where it ends. -/
def endsAt (assertion : Assertion) : Program → Bool
  | look other => other = assertion
  | seq _ second => second.endsAt assertion
  | alt preferred other => preferred.endsAt assertion && other.endsAt assertion
  | mark _ body => body.endsAt assertion
  | done | literal _ | set _ | rounds _ _ _ | openGroup _ | closeGroup _ => false

/-- Whether a program consumes a character nowhere. -/
def lacks (char : Char) : Program → Bool
  | literal chars => char ∉ chars
  | set chars => !chars.contains char
  | seq first second => first.lacks char && second.lacks char
  | alt preferred other => preferred.lacks char && other.lacks char
  | mark _ body | rounds _ _ body => body.lacks char
  | done | look _ | openGroup _ | closeGroup _ => true

/-- Whether a program has no groups. -/
def groupless : Program → Bool
  | seq first second => first.groupless && second.groupless
  | alt preferred other => preferred.groupless && other.groupless
  | mark _ body | rounds _ _ body => body.groupless
  | done | literal _ | set _ | look _ => true
  | openGroup _ | closeGroup _ => false

/-- A program as a group. -/
def group (index : Nat) (body : Program) : Program :=
  seq (openGroup index) (seq body (closeGroup index))

namespace Matches

variable {program : Program} {previous : Option Char} {offset : Nat} {groups later : Groups}
  {front back : List Char} {property : Char → Bool}

theorem ne_nil_of_mustConsume (way : program.Matches previous offset groups front back later)
    (consumes : program.mustConsume) : front ≠ [] := by
  induction way with
  | literal => simpa [mustConsume] using consumes
  | set => simp
  | seq _ _ ihHead ihTail =>
    rw [mustConsume, Bool.or_eq_true] at consumes
    rcases consumes with consumes | consumes
    · simp [ihHead consumes]
    · simp [ihTail consumes]
  | preferred _ ih => exact ih (Bool.and_eq_true _ _ ▸ consumes).1
  | other _ ih => exact ih (Bool.and_eq_true _ _ ▸ consumes).2
  | mark _ ih => exact ih consumes
  | done | look | enough | further | openGroup | closeGroup => cases consumes

theorem head?_of_startsIn (way : program.Matches previous offset groups front back later)
    (starts : program.startsIn property) : ∀ char ∈ front.head?, property char := by
  induction way with
  | literal => simpa [startsIn, Option.all_eq_true] using starts
  | set member => simpa using CharSet.of_all starts member
  | @seq first _ _ _ _ _ _ near far _ head _ ihHead ihTail =>
    rw [startsIn, Bool.and_eq_true, Bool.or_eq_true] at starts
    obtain ⟨here, there⟩ := starts
    cases near with
    | cons char near => exact ihHead here
    | nil =>
      -- The first part goes through nothing, so the second one has the first character.
      have idle : ¬first.mustConsume := fun consumes => head.ne_nil_of_mustConsume consumes rfl
      exact ihTail (there.resolve_left idle)
  | preferred _ ih => exact ih (Bool.and_eq_true _ _ ▸ starts).1
  | other _ ih => exact ih (Bool.and_eq_true _ _ ▸ starts).2
  | mark _ ih => exact ih starts
  | @further _ _ _ _ _ _ _ _ near _ _ _ _ ihHead ihTail =>
    cases near with
    | cons char near => exact ihHead starts
    | nil => exact ihTail starts
  | done | look | enough | openGroup | closeGroup => simp

theorem getLast?_of_endsIn (way : program.Matches previous offset groups front back later)
    (ends : program.endsIn property) : ∀ char ∈ front.getLast?, property char := by
  induction way with
  | literal => simpa [endsIn, Option.all_eq_true] using ends
  | set member => simpa using CharSet.of_all ends member
  | @seq _ second _ _ _ _ _ near far _ _ tail ihHead ihTail =>
    rw [endsIn, Bool.and_eq_true, Bool.or_eq_true] at ends
    obtain ⟨here, there⟩ := ends
    -- The last character belongs to the first part only if the second one goes through nothing.
    rcases far.eq_nil_or_concat with rfl | ⟨far, char, rfl⟩
    · have idle : ¬second.mustConsume := fun consumes => tail.ne_nil_of_mustConsume consumes rfl
      rw [List.append_nil]
      exact ihHead (there.resolve_left idle)
    · simpa using ihTail here
  | preferred _ ih => exact ih (Bool.and_eq_true _ _ ▸ ends).1
  | other _ ih => exact ih (Bool.and_eq_true _ _ ▸ ends).2
  | mark _ ih => exact ih ends
  | @further _ _ _ _ _ _ _ _ near far _ _ _ ihHead ihTail =>
    rcases far.eq_nil_or_concat with rfl | ⟨far, char, rfl⟩
    · rw [List.append_nil]
      exact ihHead ends
    · simpa using ihTail ends
  | done | look | enough | openGroup | closeGroup => simp

theorem holds_of_endsAt {assertion : Assertion}
    (way : program.Matches previous offset groups front back later)
    (ends : program.endsAt assertion) :
    assertion.holds ⟨lastOf previous front, back.head?⟩ := by
  induction way with
  | look holds =>
    rw [endsAt, decide_eq_true_eq] at ends
    exact ends ▸ holds
  | seq _ _ _ ihTail =>
    rw [lastOf_append]
    exact ihTail ends
  | preferred _ ih => exact ih (Bool.and_eq_true _ _ ▸ ends).1
  | other _ ih => exact ih (Bool.and_eq_true _ _ ▸ ends).2
  | mark _ ih => exact ih ends
  | done | literal | set | enough | further | openGroup | closeGroup => cases ends

theorem notMem_of_lacks {char : Char}
    (way : program.Matches previous offset groups front back later)
    (lacks : program.lacks char) : char ∉ front := by
  induction way with
  | literal => simpa [Program.lacks] using lacks
  | set member =>
    rintro among
    obtain rfl := List.mem_singleton.mp among
    simp [Program.lacks, member] at lacks
  | seq _ _ ihHead ihTail =>
    rw [Program.lacks, Bool.and_eq_true] at lacks
    simp [ihHead lacks.1, ihTail lacks.2]
  | preferred _ ih => exact ih (Bool.and_eq_true _ _ ▸ lacks).1
  | other _ ih => exact ih (Bool.and_eq_true _ _ ▸ lacks).2
  | mark _ ih => exact ih lacks
  | further _ _ ihHead ihTail => simp [ihHead lacks, ihTail lacks]
  | done | look | enough | openGroup | closeGroup => exact List.not_mem_nil

theorem eq_of_groupless (way : program.Matches previous offset groups front back later)
    (groupless : program.groupless) : later = groups := by
  induction way with
  | done | literal | set | look | enough => rfl
  | seq _ _ ihHead ihTail =>
    rw [Program.groupless, Bool.and_eq_true] at groupless
    rw [ihTail groupless.2, ihHead groupless.1]
  | preferred _ ih => exact ih (Bool.and_eq_true _ _ ▸ groupless).1
  | other _ ih => exact ih (Bool.and_eq_true _ _ ▸ groupless).2
  | mark _ ih => exact ih groupless
  | further _ _ ihHead ihTail => rw [ihTail groupless, ihHead groupless]
  | openGroup | closeGroup => cases groupless

/-- The extent of a group without groups in it is the extent of what it matches. -/
theorem group {index : Nat} {body : Program}
    (way : (body.group index).Matches previous offset groups front back later)
    (groupless : body.groupless) :
    (∃ between, body.Matches previous offset between front back between) ∧
      later.closed = (index, ⟨offset, offset + byteLength front⟩) :: groups.closed := by
  cases way with
  | seq opened inner =>
    cases opened
    cases inner with
    | seq inside closed =>
      cases closed
      cases inside.eq_of_groupless groupless
      refine ⟨⟨_, by simpa [lastOf, byteLength] using inside⟩, ?_⟩
      simp [Groups.closeAt, Groups.openAt, Groups.latest?, byteLength]

/-- A group matches what its body matches. -/
theorem inGroup {index : Nat} {body : Program}
    (way : body.Matches previous offset (groups.openAt index offset) front back later) :
    (body.group index).Matches previous offset groups front back
      (later.closeAt index (offset + byteLength front)) :=
  matches_seq_iff.mpr ⟨[], front, _, rfl, .openGroup,
    matches_seq_iff.mpr ⟨front, [], _, by simp, way, .closeGroup⟩⟩

end Matches

/-! ### Pieces -/

/-- Some way through a program consumes a piece of text, wherever it stands. -/
def Takes (program : Program) (piece : List Char) : Prop :=
  ∃ previous offset groups back later,
    program.Matches previous offset groups piece back later

namespace Takes

variable {first second : Program} {piece chars : List Char} {members : CharSet}

theorem seq (takes : (first.seq second).Takes piece) :
    ∃ near far, piece = near ++ far ∧ first.Takes near ∧ second.Takes far := by
  obtain ⟨_, _, _, _, _, way⟩ := takes
  obtain ⟨near, far, _, rfl, head, tail⟩ := matches_seq_iff.mp way
  exact ⟨near, far, rfl, ⟨_, _, _, _, _, head⟩, _, _, _, _, _, tail⟩

theorem alt (takes : (first.alt second).Takes piece) : first.Takes piece ∨ second.Takes piece := by
  obtain ⟨_, _, _, _, _, way⟩ := takes
  cases way with
  | preferred way => exact .inl ⟨_, _, _, _, _, way⟩
  | other way => exact .inr ⟨_, _, _, _, _, way⟩

theorem literal (takes : (Program.literal chars).Takes piece) : piece = chars := by
  obtain ⟨_, _, _, _, _, way⟩ := takes
  cases way
  rfl

theorem set (takes : (Program.set members).Takes piece) :
    ∃ char, members.contains char ∧ piece = [char] := by
  obtain ⟨_, _, _, _, _, way⟩ := takes
  cases way with
  | set member => exact ⟨_, member, rfl⟩

theorem done (takes : Program.done.Takes piece) : piece = [] := by
  obtain ⟨_, _, _, _, _, way⟩ := takes
  cases way
  rfl

theorem group {index : Nat} (takes : (first.group index).Takes piece) : first.Takes piece := by
  obtain ⟨_, _, rfl, ⟨_, _, _, _, _, opened⟩, rest⟩ := takes.seq
  obtain ⟨_, _, rfl, inside, _, _, _, _, _, closed⟩ := rest.seq
  cases opened
  cases closed
  simpa using inside

end Takes

end Program

end Regex

end RuleLexer
