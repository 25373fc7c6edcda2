import Mathlib.Data.List.Basic
import RuleLexer.Proofs.Regex.Ends
import RuleLexer.Proofs.Regex.Paths

/-!
# Ends in order of preference

A search follows all ways through a program at once and keeps one thread for each program, so the
order in which ways are preferred is spread over the whole text. Here the ways are followed one
after the other instead: `Program.ends` lists the places where ways end, the preferred ones first,
and takes a program apart into its parts. The search reports the first place of the list.

Labels are known to the outcomes of one place only. A sequence falls into its parts wherever one of
the two has no labels, because then the labels that the first one has passed do not matter to the
second one.

## Main results

* `Program.stop?_eq_head?`: a search ends at the first of all ends.
* `Program.ends_seq`: the ends of a sequence.
* `Program.Matches.mem_ends`: every way through a program leads to one of its ends.
-/
namespace RuleLexer

open Text

namespace Regex

/-- A place that a search has come to: the character before it, its offset and the text that is
left. -/
structure Spot where
  previous : Option Char
  offset : Nat
  rest : List Char
deriving DecidableEq

namespace Spot

/-- What a program is told of the place. -/
def place (spot : Spot) : Place := ⟨⟨spot.previous, spot.rest.head?⟩, spot.offset, spot.rest.head?⟩

/-- The place behind characters that stand at this one. -/
def past (spot : Spot) (chars : List Char) : Spot :=
  ⟨lastOf spot.previous chars, spot.offset + byteLength chars, spot.rest.drop chars.length⟩

end Spot

/-- Where ways end that begin with outcomes at a place, in the same order. -/
def landings (previous : Option Char) (offset : Nat) (outcomes : List BareOutcome) :
    List Char → List Spot
  | [] => outcomes.flatMap fun
    | .finish _ => [⟨previous, offset, []⟩]
    | .step _ => []
  | char :: rest => outcomes.flatMap fun
    | .finish _ => [⟨previous, offset, char :: rest⟩]
    | .step program =>
      let next : Spot := ⟨some char, offset + char.utf8Size, rest⟩
      landings next.previous next.offset (program.bareOutcomes next.place []) rest

/-- Where ways through a program end, the preferred ones first. -/
def Program.ends (program : Program) (spot : Spot) : List Spot :=
  landings spot.previous spot.offset (program.bareOutcomes spot.place []) spot.rest

section Landings

variable {previous : Option Char} {offset : Nat} {text rest : List Char} {char : Char}
  {outcomes more : List BareOutcome} {program : Program} {programs : List Program}
  {passed : List Nat} {best : Option Nat} {spot : Spot}

theorem landings_nil : landings previous offset [] text = [] := by
  cases text <;> rfl

theorem landings_append : landings previous offset (outcomes ++ more) text =
    landings previous offset outcomes text ++ landings previous offset more text := by
  cases text <;> simp [landings]

theorem landings_flatMap {α : Type} {values : List α} {each : α → List BareOutcome} :
    landings previous offset (values.flatMap each) text =
      values.flatMap fun value => landings previous offset (each value) text := by
  cases text <;> simp [landings, List.flatMap_assoc]

theorem landings_finish :
    landings previous offset [.finish passed] text = [⟨previous, offset, text⟩] := by
  cases text <;> rfl

theorem landings_step_nil : landings previous offset [.step program] [] = [] := rfl

theorem landings_step_cons :
    landings previous offset [.step program] (char :: rest) =
      program.ends ⟨some char, offset + char.utf8Size, rest⟩ := by
  simp [landings, Program.ends]

/-- The ends that begin with one outcome after the other. -/
theorem landings_eq_flatMap (outcomes : List BareOutcome) :
    landings previous offset outcomes text =
      outcomes.flatMap fun outcome => landings previous offset [outcome] text := by
  conv_lhs => rw [← List.flatMap_singleton' outcomes]
  exact landings_flatMap

/-! ### The search -/

/-- The first end belongs to a program that runs on, or else it is the place itself. -/
theorem head?_landings :
    (landings previous offset outcomes text).head? =
      (((untilBareFinish outcomes).1.flatMap fun program =>
        landings previous offset [.step program] text).head?).or
        (if (untilBareFinish outcomes).2 then some ⟨previous, offset, text⟩ else none) := by
  induction outcomes with
  | nil => simp [landings_nil, untilBareFinish]
  | cons outcome rest ih =>
    rw [← List.singleton_append, landings_append, List.head?_append]
    cases outcome with
    | finish passed => simp [landings_finish, untilBareFinish]
    | step program =>
      rw [ih]
      simp [untilBareFinish, List.flatMap_cons, List.head?_append, Option.or_assoc]

/-- Of equal programs the first one is enough to find the first end. -/
theorem head?_flatMap_distinctPrograms (each : Program → List Spot) (programs : List Program) :
    ((distinctPrograms programs).flatMap each).head? = (programs.flatMap each).head? := by
  have skip (program : Program) (others : List Program) (none : (each program).head? = none) :
      ((others.filter (· != program)).flatMap each).head? = (others.flatMap each).head? := by
    induction others with
    | nil => rfl
    | cons other others ih =>
      by_cases same : other = program
      · subst same
        simpa [List.head?_append, none] using ih
      · simpa [List.filter_cons, same, List.head?_append] using congrArg (each other).head?.or ih
  induction programs with
  | nil => rfl
  | cons program rest ih =>
    rw [distinctPrograms, List.flatMap_cons, List.flatMap_cons, List.head?_append,
      List.head?_append, ← ih]
    cases first : (each program).head? with
    | some spot => rfl
    | none => rw [skip program _ first]

theorem advanceBare_eq_head? :
    advanceBare previous offset programs text best =
      (((programs.flatMap fun program => program.ends ⟨previous, offset, text⟩).head?).map
        Spot.offset).or best := by
  induction text generalizing previous offset programs best with
  | nil =>
    simp only [Program.ends]
    rw [← landings_flatMap, head?_landings]
    unfold advanceBare
    generalize reached : untilBareFinish _ = outcome
    obtain ⟨running, finished⟩ := outcome
    simp only [Spot.place, List.head?_nil] at reached ⊢
    have nothing : running.flatMap (fun program => landings previous offset [.step program] []) =
        [] := List.flatMap_eq_nil_iff.2 fun _ _ => landings_step_nil
    simp only [reached, nothing]
    cases running <;> cases finished <;> simp
  | cons char rest ih =>
    simp only [Program.ends]
    rw [← landings_flatMap, head?_landings]
    unfold advanceBare
    generalize reached : untilBareFinish _ = outcome
    obtain ⟨running, finished⟩ := outcome
    simp only [Spot.place, List.head?_cons] at reached ⊢
    simp only [reached]
    cases running with
    | nil => cases finished <;> simp
    | cons first running =>
      simp only
      rw [ih, head?_flatMap_distinctPrograms]
      simp only [landings_step_cons]
      rw [Option.map_or, Option.or_assoc]
      cases finished <;> rfl

end Landings

/-- A search ends at the first of all ends. -/
theorem Program.stop?_eq_head? (program : Program) (previous : Option Char) (text : List Char) :
    program.stop? previous text = (program.ends ⟨previous, 0, text⟩).head?.map Spot.offset := by
  rw [stop?, advanceBare_eq_head?]
  simp

/-! ### Labels -/

/-- A program without labels. -/
def Program.unmarked : Program → Bool
  | seq first second => first.unmarked && second.unmarked
  | alt preferred other => preferred.unmarked && other.unmarked
  | mark _ _ | rounds _ _ _ => false
  | _ => true

/-- An outcome that no label has led to, and none waits behind it. -/
def BareOutcome.unmarked : BareOutcome → Bool
  | finish passed => passed.isEmpty
  | step rest => rest.unmarked

/-- The same outcome after labels that have been passed before. -/
def BareOutcome.after (passed : List Nat) : BareOutcome → BareOutcome
  | finish _ => finish passed
  | step rest => step rest

section Labels

variable {previous : Option Char} {offset : Nat} {text : List Char} {outcomes : List BareOutcome}
  {first second program : Program} {passed : List Nat} {place : Place} {spot : Spot}

theorem Program.unmarked_andThen (front : first.unmarked) (back : second.unmarked) :
    (first.andThen second).unmarked := by
  unfold andThen
  split
  · exact back
  · simp [unmarked, front, back]

/-- A program without labels does not ask which ones have been passed. -/
theorem bareOutcomes_of_unmarked (unmarked : program.unmarked) (passed : List Nat) :
    program.bareOutcomes place passed =
      (program.bareOutcomes place []).map (.after passed) := by
  induction program generalizing passed with
  | done | openGroup | closeGroup => rfl
  | literal chars =>
    rcases chars with _ | ⟨char, _ | ⟨_, _⟩⟩
    · rfl
    all_goals
      simp only [Program.bareOutcomes]
      split <;> rfl
  | set | look =>
    simp only [Program.bareOutcomes]
    split <;> rfl
  | seq first second ihFirst ihSecond =>
    simp only [Program.unmarked, Bool.and_eq_true] at unmarked
    simp only [Program.bareOutcomes]
    rw [ihFirst unmarked.1, List.flatMap_map, List.map_flatMap]
    congr 1
    funext outcome
    cases outcome with
    | finish earlier =>
      simp only [BareOutcome.after]
      rw [ihSecond unmarked.2, ihSecond unmarked.2 earlier, List.map_map]
      congr 1
      funext outcome
      cases outcome <;> rfl
    | step rest => rfl
  | alt preferred other ihPreferred ihOther =>
    simp only [Program.unmarked, Bool.and_eq_true] at unmarked
    simp only [Program.bareOutcomes, List.map_append]
    rw [ihPreferred unmarked.1, ihOther unmarked.2]
  | mark | rounds => cases unmarked

theorem unmarked_of_mem_bareOutcomes (unmarked : program.unmarked) {outcome : BareOutcome}
    (member : outcome ∈ program.bareOutcomes place []) : outcome.unmarked := by
  induction program generalizing outcome with
  | done | openGroup | closeGroup =>
    simp only [Program.bareOutcomes, List.mem_singleton] at member
    rw [member]
    rfl
  | literal chars =>
    rcases chars with _ | ⟨char, _ | ⟨_, _⟩⟩
    · simp only [Program.bareOutcomes, List.mem_singleton] at member
      rw [member]
      rfl
    all_goals
      simp only [Program.bareOutcomes] at member
      split at member
      · rw [List.mem_singleton.mp member]
        rfl
      · cases member
  | set | look =>
    simp only [Program.bareOutcomes] at member
    split at member
    · rw [List.mem_singleton.mp member]
      rfl
    · cases member
  | seq first second ihFirst ihSecond =>
    simp only [Program.unmarked, Bool.and_eq_true] at unmarked
    simp only [Program.bareOutcomes, List.mem_flatMap] at member
    obtain ⟨earlier, front, back⟩ := member
    have known := ihFirst unmarked.1 front
    cases earlier with
    | finish labels =>
      rw [List.isEmpty_iff.mp known] at back
      exact ihSecond unmarked.2 back
    | step rest =>
      rw [List.mem_singleton.mp back]
      exact Program.unmarked_andThen known unmarked.2
  | alt preferred other ihPreferred ihOther =>
    simp only [Program.unmarked, Bool.and_eq_true] at unmarked
    simp only [Program.bareOutcomes, List.mem_append] at member
    exact member.elim (ihPreferred unmarked.1) (ihOther unmarked.2)
  | mark | rounds => cases unmarked

/-- Where ways end does not depend on the labels that have been passed on the way. -/
theorem landings_after :
    landings previous offset (outcomes.map (.after passed)) text =
      landings previous offset outcomes text := by
  rw [landings_eq_flatMap, List.flatMap_map, landings_eq_flatMap outcomes]
  congr 1
  funext outcome
  cases outcome with
  | finish labels => simp only [BareOutcome.after, landings_finish]
  | step rest => rfl

/-! ### Parts of programs -/

namespace Program

theorem ends_done : done.ends spot = [spot] := landings_finish

/-- Behind an outcome of the first part that finishes, the second part begins. -/
theorem landings_of_finish (labels : passed = [] ∨ second.unmarked) :
    landings spot.previous spot.offset (second.bareOutcomes spot.place passed) spot.rest =
      second.ends spot := by
  rcases labels with rfl | unmarked
  · rfl
  · rw [bareOutcomes_of_unmarked unmarked, landings_after]
    rfl

theorem ends_seq (apart : first.unmarked ∨ second.unmarked) :
    (first.seq second).ends spot = (first.ends spot).flatMap second.ends := by
  obtain ⟨previous, offset, text⟩ := spot
  induction text generalizing first previous offset with
  | nil =>
    rw [ends, bareOutcomes, landings_flatMap, ends, landings_eq_flatMap, List.flatMap_assoc]
    refine List.flatMap_congr fun outcome member => ?_
    cases outcome with
    | finish passed =>
      rw [landings_finish, List.flatMap_singleton]
      exact landings_of_finish (apart.imp_left fun unmarked =>
        List.isEmpty_iff.mp (unmarked_of_mem_bareOutcomes unmarked member))
    | step rest => rfl
  | cons char text ih =>
    rw [ends, bareOutcomes, landings_flatMap, ends, landings_eq_flatMap, List.flatMap_assoc]
    refine List.flatMap_congr fun outcome member => ?_
    cases outcome with
    | finish passed =>
      rw [landings_finish, List.flatMap_singleton]
      exact landings_of_finish (apart.imp_left fun unmarked =>
        List.isEmpty_iff.mp (unmarked_of_mem_bareOutcomes unmarked member))
    | step rest =>
      dsimp only
      rw [landings_step_cons, landings_step_cons]
      unfold andThen
      split
      · rw [ends_done, List.flatMap_singleton]
      · exact ih (apart.imp_left fun unmarked => unmarked_of_mem_bareOutcomes unmarked member) _ _

theorem ends_andThen (apart : first.unmarked ∨ second.unmarked) :
    (first.andThen second).ends spot = (first.ends spot).flatMap second.ends := by
  unfold andThen
  split
  · rw [ends_done, List.flatMap_singleton]
  · exact ends_seq apart

theorem ends_alt : (first.alt second).ends spot = first.ends spot ++ second.ends spot := by
  rw [ends, bareOutcomes, landings_append]
  rfl

theorem ends_openGroup {group : Nat} : (openGroup group).ends spot = [spot] := landings_finish

theorem ends_closeGroup {group : Nat} : (closeGroup group).ends spot = [spot] := landings_finish

theorem ends_look {assertion : Assertion} : (look assertion).ends spot =
    if assertion.holds spot.place.around then [spot] else [] := by
  rw [ends, bareOutcomes]
  split
  · exact landings_finish
  · exact landings_nil

/-- A character of a set is consumed. -/
theorem landings_taken {char : Char} {chars : CharSet} {rest : List Char} :
    landings previous offset (if chars.contains char then [.step program] else []) (char :: rest) =
      if chars.contains char then program.ends ⟨some char, offset + char.utf8Size, rest⟩
      else [] := by
  split
  · exact landings_step_cons
  · exact landings_nil

theorem ends_set {chars : CharSet} : (set chars).ends spot =
    if spot.rest.head?.any chars.contains then [spot.past (spot.rest.take 1)] else [] := by
  obtain ⟨previous, offset, _ | ⟨char, rest⟩⟩ := spot
  · rfl
  · refine landings_taken.trans ?_
    rw [ends_done]
    simp [Spot.past, lastOf, byteLength]

/-- What is left of a literal behind its first character has the ends of the shorter literal. -/
theorem ends_literal_cons {char next : Char} {chars rest : List Char} :
    (literal (char :: chars)).ends ⟨previous, offset, next :: rest⟩ =
      if next = char then (literal chars).ends ⟨some next, offset + next.utf8Size, rest⟩
      else [] := by
  by_cases same : next = char
  · rcases chars with _ | ⟨_, _⟩ <;>
      simp [ends, bareOutcomes, Spot.place, same, landings_step_cons, landings_finish]
  · rcases chars with _ | ⟨_, _⟩ <;> simp [ends, bareOutcomes, Spot.place, same, landings_nil]

theorem ends_literal {chars : List Char} : (literal chars).ends spot =
    if chars <+: spot.rest then [spot.past chars] else [] := by
  induction chars generalizing spot with
  | nil =>
    rw [if_pos List.nil_prefix]
    exact landings_finish
  | cons char chars ih =>
    obtain ⟨previous, offset, _ | ⟨next, rest⟩⟩ := spot
    · rcases chars with _ | ⟨_, _⟩ <;> rfl
    · rw [ends_literal_cons, ih]
      by_cases same : next = char
      · subst same
        simp [List.cons_prefix_cons, Spot.past, lastOf, byteLength, Nat.add_assoc]
      · rw [if_neg same, if_neg fun starts => same (List.cons_prefix_cons.mp starts).1.symm]

/-- A greedy repetition prefers another round to leaving. -/
theorem ends_greed {label : Nat} {chars : CharSet} : (rounds label true (set chars)).ends spot =
    if spot.rest.head?.any chars.contains then
      (rounds label true (set chars)).ends (spot.past (spot.rest.take 1)) ++ [spot]
    else [spot] := by
  obtain ⟨previous, offset, _ | ⟨char, rest⟩⟩ := spot
  · rfl
  · have outcomes : bareOutcomes (Spot.place ⟨previous, offset, char :: rest⟩)
        (rounds label true (set chars)) [] =
        (if chars.contains char then [.step (rounds label true (set chars))] else []) ++
          [.finish [label]] := by
      by_cases member : chars.contains char <;>
        simp [bareOutcomes, Spot.place, member, andThen]
    rw [ends, outcomes, landings_append, landings_finish, landings_taken]
    by_cases member : chars.contains char <;>
      simp [member, Spot.past, lastOf, byteLength]

end Program

/-! ### All ways -/

namespace Program

/-- Whether every way through a program leads to one of its ends. Labels do not keep a greedy
repetition of a set from another round. -/
def traceable : Program → Bool
  | seq first second =>
    first.traceable && second.traceable && (first.unmarked || second.unmarked)
  | alt preferred other => preferred.traceable && other.traceable
  | rounds _ greedy (set _) => greedy
  | rounds _ _ _ | mark _ _ => false
  | _ => true

theorem Matches.mem_ends {groups later : Groups} {front back : List Char}
    (way : program.Matches previous offset groups front back later)
    (traceable : program.traceable) :
    ⟨lastOf previous front, offset + byteLength front, back⟩ ∈
      program.ends ⟨previous, offset, front ++ back⟩ := by
  induction way with
  | done => simp [ends_done, lastOf, byteLength]
  | literal => simp [ends_literal, Spot.past]
  | set member => simp [ends_set, member, Spot.past]
  | look holds => simp [ends_look, Spot.place, holds, lastOf, byteLength]
  | seq head tail ihHead ihTail =>
    simp only [Program.traceable, Bool.and_eq_true, Bool.or_eq_true] at traceable
    obtain ⟨⟨front, back⟩, apart⟩ := traceable
    rw [ends_seq apart, List.mem_flatMap, List.append_assoc, lastOf_append, byteLength_append,
      ← Nat.add_assoc]
    exact ⟨_, ihHead front, ihTail back⟩
  | preferred way ih =>
    rw [ends_alt]
    exact List.mem_append_left _ (ih (Bool.and_eq_true _ _ ▸ traceable).1)
  | other way ih =>
    rw [ends_alt]
    exact List.mem_append_right _ (ih (Bool.and_eq_true _ _ ▸ traceable).2)
  | mark => cases traceable
  | @enough _ greedy body =>
    cases body with
    | set chars =>
      obtain rfl : greedy = true := traceable
      rw [ends_greed]
      split <;> simp [lastOf, byteLength]
    | _ => cases traceable
  | @further _ greedy body _ _ _ _ _ near far back head tail _ ihTail =>
    cases body with
    | set chars =>
      obtain rfl : greedy = true := traceable
      cases head with
      | set member =>
        rw [ends_greed, if_pos (by simpa using member), byteLength_append, ← Nat.add_assoc]
        exact List.mem_append_left _ (ihTail rfl)
    | _ => cases traceable
  | openGroup => simp [ends_openGroup, lastOf, byteLength]
  | closeGroup => simp [ends_closeGroup, lastOf, byteLength]

end Program

end Labels

end Regex

/-- A pattern whose program goes through the beginning of a text matches there. -/
theorem Pattern.exists_matchHere?_of_matches {pattern : Pattern} {before front back : List Char}
    {later : Regex.Groups} (allowed : ∀ lookbehind ∈ pattern.lookbehind, lookbehind.allows before)
    (way : pattern.program.Matches before.head? 0 .none front back later)
    (traceable : pattern.program.traceable) :
    ∃ found, pattern.matchHere? before (front ++ back) = some found := by
  have stops : (pattern.stopHere? before (front ++ back)).isSome := by
    rw [stopHere?, if_pos (by simpa [Option.all_eq_true] using allowed),
      Regex.Program.stop?_eq_head?, Option.isSome_map]
    exact List.isSome_head?.mpr (List.ne_nil_of_mem (way.mem_ends traceable))
  rw [stopHere?_eq, Option.isSome_map] at stops
  exact Option.isSome_iff_exists.mp stops

end RuleLexer
