import RuleLexer.Pattern

/-!
# Ends of matches

Where a match ends does not depend on what its groups match. A rule without groups asks only for the
end, and a search for the end alone need not keep any groups: it follows programs where the other
search follows threads. Both go through the same programs in the same order, since the groups of a
thread are never looked at on the way, so both stop at the same place.

## Main results

* `Regex.Program.stop?_eq`: a program ends at the same place with and without groups.
* `Pattern.stopHere?_eq`, `Pattern.stopAt_eq`: so does a pattern, whose look-behind is asked in the
  same way.
-/
namespace RuleLexer

namespace Regex

/-- What a program can do at a place, without what its groups match. -/
inductive BareOutcome
  | finish (passed : List Nat)
  | step (rest : Program)

def Outcome.bare : Outcome → BareOutcome
  | .finish passed _ => .finish passed
  | .step rest _ => .step rest

/-- The outcomes of a program at a place, the preferred ones first. -/
def Program.bareOutcomes (place : Place) : Program → List Nat → List BareOutcome
  | done, passed => [.finish passed]
  | literal [], passed => [.finish passed]
  | literal [char], _ => if place.input = some char then [.step done] else []
  | literal (char :: chars), _ =>
    if place.input = some char then [.step (literal chars)] else []
  | set chars, _ => if place.input.any chars.contains then [.step done] else []
  | look assertion, passed => if assertion.holds place.around then [.finish passed] else []
  | seq first second, passed =>
    (bareOutcomes place first passed).flatMap fun
      | .finish passed => bareOutcomes place second passed
      | .step rest => [.step (rest.andThen second)]
  | alt preferred other, passed =>
    bareOutcomes place preferred passed ++ bareOutcomes place other passed
  | mark label body, passed =>
    if label ∈ passed then [] else bareOutcomes place body (label :: passed)
  | rounds label greedy body, passed =>
    if label ∈ passed then []
    else
      let further := (bareOutcomes place body (label :: passed)).filterMap fun
        | .finish _ => none
        | .step rest => some (.step (rest.andThen (rounds label greedy body)))
      let enough := BareOutcome.finish (label :: passed)
      if greedy then further ++ [enough] else enough :: further
  | openGroup _, passed => [.finish passed]
  | closeGroup _, passed => [.finish passed]

/-- The programs before the first finished outcome, and whether there is one. -/
def untilBareFinish : List BareOutcome → List Program × Bool
  | [] => ([], false)
  | .finish _ :: _ => ([], true)
  | .step program :: rest =>
    let (programs, finished) := untilBareFinish rest
    (program :: programs, finished)

/-- Keeps the first one of equal programs. -/
def distinctPrograms : List Program → List Program
  | [] => []
  | program :: rest => program :: (distinctPrograms rest).filter fun other => other != program

/-- Advances programs over a text from an offset on, and keeps the end of the best way so far. -/
def advanceBare (previous : Option Char) (offset : Nat) (programs : List Program) :
    List Char → Option Nat → Option Nat
  | text, best =>
    let place : Place := ⟨⟨previous, text.head?⟩, offset, text.head?⟩
    let (running, finished) :=
      untilBareFinish (programs.flatMap fun program => program.bareOutcomes place [])
    let best := if finished then some offset else best
    match text, running with
    | _, [] | [], _ => best
    | char :: rest, running =>
      advanceBare (some char) (offset + char.utf8Size) (distinctPrograms running) rest best

/-- Where the preferred way through a program ends. -/
def Program.stop? (program : Program) (previous : Option Char) (text : List Char) : Option Nat :=
  advanceBare previous 0 [program] text none

/-! ### Outcomes -/

theorem Program.map_bare_outcomes (place : Place) (program : Program) (passed : List Nat)
    (groups : Groups) :
    (program.outcomes place passed groups).map Outcome.bare = program.bareOutcomes place passed := by
  induction program generalizing passed groups with
  | done => rfl
  | literal chars =>
    rcases chars with _ | ⟨char, _ | ⟨_, _⟩⟩
    · rfl
    · simp only [outcomes, bareOutcomes]
      split <;> rfl
    · simp only [outcomes, bareOutcomes]
      split <;> rfl
  | set chars =>
    simp only [outcomes, bareOutcomes]
    split <;> rfl
  | look assertion =>
    simp only [outcomes, bareOutcomes]
    split <;> rfl
  | seq first second ihFirst ihSecond =>
    simp only [outcomes, bareOutcomes]
    rw [List.map_flatMap, ← ihFirst passed groups, List.flatMap_map]
    congr 1
    funext outcome
    cases outcome with
    | finish passed groups => exact ihSecond passed groups
    | step rest groups => rfl
  | alt preferred other ihPreferred ihOther =>
    simp only [outcomes, bareOutcomes, List.map_append, ihPreferred, ihOther]
  | mark label body ih =>
    simp only [outcomes, bareOutcomes]
    split
    · rfl
    · exact ih _ _
  | rounds label greedy body ih =>
    simp only [outcomes, bareOutcomes]
    split
    · rfl
    · have further : ((body.outcomes place (label :: passed) groups).filterMap fun
            | .finish _ _ => none
            | .step rest groups =>
              some (Outcome.step (rest.andThen (rounds label greedy body)) groups)).map
            Outcome.bare =
          (body.bareOutcomes place (label :: passed)).filterMap fun
            | .finish _ => none
            | .step rest => some (.step (rest.andThen (rounds label greedy body))) := by
        rw [← ih (label :: passed) groups, List.map_filterMap, List.filterMap_map]
        congr 1
        funext outcome
        cases outcome <;> rfl
      cases greedy with
      | true =>
        simp only [if_true, List.map_append]
        exact congrArg (fun further => further ++ [.finish (label :: passed)]) further
      | false =>
        simp only [Bool.false_eq_true, if_false, List.map_cons]
        exact congrArg (fun further => .finish (label :: passed) :: further) further
  | openGroup group => rfl
  | closeGroup group => rfl

theorem untilBareFinish_eq (outcomes : List Outcome) :
    untilBareFinish (outcomes.map Outcome.bare) =
      ((untilFinish outcomes).1.map Thread.program, (untilFinish outcomes).2.isSome) := by
  induction outcomes with
  | nil => rfl
  | cons outcome rest ih =>
    cases outcome with
    | finish passed groups => rfl
    | step program groups =>
      simp only [List.map_cons, Outcome.bare, untilBareFinish, untilFinish, ih]

theorem map_program_distinctThreads (threads : List Thread) :
    (distinctThreads threads).map Thread.program =
      distinctPrograms (threads.map Thread.program) := by
  induction threads with
  | nil => rfl
  | cons thread rest ih =>
    simp only [distinctThreads, List.map_cons, distinctPrograms, ← ih, List.filter_map]
    rfl

/-! ### A whole search -/

/-- What one place of a search leaves behind: the programs that run on, and whether one finishes. -/
theorem untilBareFinish_flatMap (place : Place) (threads : List Thread) :
    untilBareFinish ((threads.map Thread.program).flatMap fun program =>
        program.bareOutcomes place []) =
      ((untilFinish (threads.flatMap fun thread =>
          thread.program.outcomes place [] thread.groups)).1.map Thread.program,
        (untilFinish (threads.flatMap fun thread =>
          thread.program.outcomes place [] thread.groups)).2.isSome) := by
  rw [← untilBareFinish_eq, List.map_flatMap, List.flatMap_map]
  congr 2
  funext thread
  exact (Program.map_bare_outcomes place thread.program [] thread.groups).symm

theorem advanceBare_eq (text : List Char) (previous : Option Char) (offset : Nat)
    (threads : List Thread) (best : Option Success) :
    advanceBare previous offset (threads.map Thread.program) text (best.map Success.stop) =
      (advance previous offset threads text best).map Success.stop := by
  induction text generalizing previous offset threads best with
  | nil =>
    unfold advanceBare advance
    simp only [untilBareFinish_flatMap]
    generalize untilFinish _ = reached
    obtain ⟨running, finished⟩ := reached
    cases finished <;> cases running <;> rfl
  | cons char rest ih =>
    unfold advanceBare advance
    simp only [untilBareFinish_flatMap]
    generalize untilFinish _ = reached
    obtain ⟨running, finished⟩ := reached
    cases running with
    | nil => cases finished <;> rfl
    | cons first running =>
      have further := ih (some char) (offset + char.utf8Size) (distinctThreads (first :: running))
        ((finished.map fun groups => ⟨offset, groups⟩) <|> best)
      rw [map_program_distinctThreads] at further
      simp only [List.map_cons] at further ⊢
      rw [← further]
      -- Whether or not a thread finishes here, the best way so far ends at the same place.
      cases finished <;> rfl

theorem Program.stop?_eq (program : Program) (previous : Option Char) (text : List Char) :
    program.stop? previous text = (program.run previous text).map Success.stop :=
  advanceBare_eq text previous 0 [⟨program, .none⟩] none

end Regex

/-- Where the match at a place ends, counted from the place. -/
def Pattern.stopHere? (pattern : Pattern) (before after : List Char) : Option Nat :=
  if pattern.lookbehind.all fun lookbehind => lookbehind.allows before then
    pattern.program.stop? before.head? after
  else none

theorem Pattern.stopHere?_eq (pattern : Pattern) (before after : List Char) :
    pattern.stopHere? before after = (pattern.matchHere? before after).map Match.stop := by
  unfold stopHere? matchHere?
  split
  · rw [Regex.Program.stop?_eq, Option.map_map]
    rfl
  · rfl

/-- Where the match at an offset of a text ends. -/
def Pattern.stopAt (pattern : Pattern) (text : List Char) (offset : Nat) :
    Except OffsetError (Option Nat) :=
  match Text.splitAt? text offset with
  | some (before, after) => .ok ((pattern.stopHere? before after).map (offset + ·))
  | none =>
    if pattern.lookbehind.isSome then .error .noBoundary
    else if offset > Text.byteLength text + 1 then .error .pastEnd
    else .ok none

/-- At any offset of a text a match ends at the same place with and without groups. -/
theorem Pattern.stopAt_eq (pattern : Pattern) (text : List Char) (offset : Nat) :
    pattern.stopAt text offset = (pattern.matchAt text offset).map (Option.map Match.stop) := by
  unfold stopAt matchAt
  cases Text.splitAt? text offset with
  | some cut => simp [stopHere?_eq, Except.map, Function.comp_def]
  | none =>
    dsimp only
    split
    · rfl
    · split <;> rfl

end RuleLexer
