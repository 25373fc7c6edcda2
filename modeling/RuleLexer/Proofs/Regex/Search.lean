import RuleLexer.Pattern
import RuleLexer.Proofs.Text.Tiling

/-!
# Searches

`Program.outcomes` lists what a program can do at a place, the preferred outcome first. Where the
order does not matter, `Program.Yields` says what is in the list: it has a clause for each way to an
outcome, so that what all outcomes of a program have in common is shown by cases or by induction.

A search goes from place to place with the threads that these outcomes leave. What it reports is
known from what it keeps on the way: either of threads and the best way together, or of each thread
by itself.

## Main results

* `Program.mem_outcomes_iff`: the list holds exactly these outcomes.
* `advance_induction`: what a search keeps from each place to the next one says what it reports.
* `Program.run_forall`: so does what every outcome of a thread keeps.
-/
namespace RuleLexer.Regex

open Text

/-! ### What programs can do -/

/-- A program has an outcome at a place, where labels have been passed and groups recorded before. -/
inductive Program.Yields (place : Place) : Program → List Nat → Groups → Outcome → Prop
  | done {passed groups} : Yields place done passed groups (.finish passed groups)
  | spelled {passed groups} : Yields place (literal []) passed groups (.finish passed groups)
  | last {char passed groups} (here : place.input = some char) :
    Yields place (literal [char]) passed groups (.step done groups)
  | spell {char next chars passed groups} (here : place.input = some char) :
    Yields place (literal (char :: next :: chars)) passed groups
      (.step (literal (next :: chars)) groups)
  | set {chars char passed groups} (here : place.input = some char)
    (member : chars.contains char) : Yields place (set chars) passed groups (.step done groups)
  | look {assertion passed groups} (holds : assertion.holds place.around) :
    Yields place (look assertion) passed groups (.finish passed groups)
  | through {first second passed groups between middle outcome}
    (head : Yields place first passed groups (.finish between middle))
    (tail : Yields place second between middle outcome) :
    Yields place (seq first second) passed groups outcome
  | onwards {first second passed groups rest later}
    (head : Yields place first passed groups (.step rest later)) :
    Yields place (seq first second) passed groups (.step (rest.andThen second) later)
  | preferred {preferred other passed groups outcome}
    (way : Yields place preferred passed groups outcome) :
    Yields place (alt preferred other) passed groups outcome
  | other {preferred other passed groups outcome}
    (way : Yields place other passed groups outcome) :
    Yields place (alt preferred other) passed groups outcome
  | mark {label body passed groups outcome} (fresh : label ∉ passed)
    (way : Yields place body (label :: passed) groups outcome) :
    Yields place (mark label body) passed groups outcome
  | enough {label greedy body passed groups} (fresh : label ∉ passed) :
    Yields place (rounds label greedy body) passed groups (.finish (label :: passed) groups)
  | further {label greedy body passed groups rest later} (fresh : label ∉ passed)
    (way : Yields place body (label :: passed) groups (.step rest later)) :
    Yields place (rounds label greedy body) passed groups
      (.step (rest.andThen (rounds label greedy body)) later)
  | openGroup {group passed groups} :
    Yields place (openGroup group) passed groups
      (.finish passed (groups.openAt group place.offset))
  | closeGroup {group passed groups} :
    Yields place (closeGroup group) passed groups
      (.finish passed (groups.closeAt group place.offset))

namespace Program

variable {place : Place} {program : Program} {passed : List Nat} {groups : Groups}
  {outcome : Outcome}

theorem yields_of_mem_outcomes (member : outcome ∈ program.outcomes place passed groups) :
    program.Yields place passed groups outcome := by
  induction program generalizing passed groups outcome with
  | done | openGroup group | closeGroup group =>
    rw [List.mem_singleton.mp member]
    constructor
  | literal chars =>
    match chars with
    | [] =>
      rw [List.mem_singleton.mp member]
      exact .spelled
    | [char] =>
      simp only [outcomes] at member
      split at member
      next here => exact List.mem_singleton.mp member ▸ .last here
      · cases member
    | char :: next :: chars =>
      simp only [outcomes] at member
      split at member
      next here => exact List.mem_singleton.mp member ▸ .spell here
      · cases member
  | set chars =>
    simp only [outcomes] at member
    split at member
    next here =>
      obtain ⟨char, first, among⟩ := (Option.any_eq_true _ _).mp here
      exact List.mem_singleton.mp member ▸ .set first among
    · cases member
  | look assertion =>
    simp only [outcomes] at member
    split at member
    next holds => exact List.mem_singleton.mp member ▸ .look holds
    · cases member
  | seq first second ihFirst ihSecond =>
    obtain ⟨earlier, among, member⟩ := List.mem_flatMap.mp member
    cases earlier with
    | finish between middle => exact .through (ihFirst among) (ihSecond member)
    | step rest later => exact List.mem_singleton.mp member ▸ .onwards (ihFirst among)
  | alt preferred other ihPreferred ihOther =>
    rcases List.mem_append.mp member with member | member
    · exact .preferred (ihPreferred member)
    · exact .other (ihOther member)
  | mark label body ih =>
    simp only [outcomes] at member
    split at member
    · cases member
    next fresh => exact .mark fresh (ih member)
  | rounds label greedy body ih =>
    simp only [outcomes] at member
    split at member
    · cases member
    next fresh =>
      -- Greed decides on the order of the outcomes only.
      have sorted : outcome = .finish (label :: passed) groups ∨
          ∃ rest later, .step rest later ∈ body.outcomes place (label :: passed) groups ∧
            outcome = .step (rest.andThen (rounds label greedy body)) later := by
        cases greedy <;>
          simp only [if_true, Bool.false_eq_true, if_false, List.mem_cons, List.mem_append,
            List.mem_filterMap, List.not_mem_nil, or_false] at member
        all_goals grind
      rcases sorted with rfl | ⟨rest, later, among, rfl⟩
      · exact .enough fresh
      · exact .further fresh (ih among)

theorem Yields.mem_outcomes (yields : program.Yields place passed groups outcome) :
    outcome ∈ program.outcomes place passed groups := by
  induction yields with
  | done | spelled | openGroup | closeGroup => exact List.mem_singleton_self _
  | last here | spell here => simp [outcomes, here]
  | set here member => simp [outcomes, here, member]
  | look holds => simp [outcomes, holds]
  | through head tail ihHead ihTail => exact List.mem_flatMap.mpr ⟨_, ihHead, ihTail⟩
  | onwards head ih => exact List.mem_flatMap.mpr ⟨_, ih, List.mem_singleton_self _⟩
  | preferred way ih => exact List.mem_append_left _ ih
  | other way ih => exact List.mem_append_right _ ih
  | mark fresh way ih => rwa [outcomes, if_neg fresh]
  | @enough _ greedy _ _ _ fresh => cases greedy <;> simp [outcomes, fresh]
  | @further _ greedy _ _ _ _ _ fresh way ih =>
    simp only [outcomes, if_neg fresh]
    cases greedy
    · exact List.mem_cons_of_mem _ (List.mem_filterMap.mpr ⟨_, ih, rfl⟩)
    · exact List.mem_append_left _ (List.mem_filterMap.mpr ⟨_, ih, rfl⟩)

/-- The list of outcomes holds what the program yields. -/
theorem mem_outcomes_iff :
    outcome ∈ program.outcomes place passed groups ↔ program.Yields place passed groups outcome :=
  ⟨yields_of_mem_outcomes, Yields.mem_outcomes⟩

end Program

/-! ### One place -/

/-- What holds of all outcomes holds of the threads that run on and of the one that is through. -/
theorem untilFinish_forall {property : Outcome → Prop} {outcomes : List Outcome}
    (every : ∀ outcome ∈ outcomes, property outcome) :
    (∀ thread ∈ (untilFinish outcomes).1, property (.step thread.program thread.groups)) ∧
      ∀ groups ∈ (untilFinish outcomes).2, ∃ passed, property (.finish passed groups) := by
  induction outcomes with
  | nil => simp [untilFinish]
  | cons outcome rest ih =>
    have first := every outcome List.mem_cons_self
    cases outcome with
    | finish passed groups => simpa [untilFinish] using ⟨passed, first⟩
    | step program groups =>
      obtain ⟨threads, finished⟩ := ih fun outcome member =>
        every outcome (List.mem_cons_of_mem _ member)
      refine ⟨?_, finished⟩
      intro thread member
      rcases List.mem_cons.mp member with rfl | member
      · exact first
      · exact threads thread member

theorem mem_of_mem_distinctThreads {thread : Thread} {threads : List Thread}
    (member : thread ∈ distinctThreads threads) : thread ∈ threads := by
  induction threads with
  | nil => exact member
  | cons first rest ih =>
    rcases List.mem_cons.mp member with rfl | member
    · exact List.mem_cons_self
    · exact List.mem_cons_of_mem _ (ih (List.mem_filter.mp member).1)

/-- The character right before a place that lies behind a piece of text. -/
def lastOf (previous : Option Char) : List Char → Option Char
  | [] => previous
  | char :: rest => lastOf (some char) rest

theorem lastOf_append (previous : Option Char) (front back : List Char) :
    lastOf previous (front ++ back) = lastOf (lastOf previous front) back := by
  induction front generalizing previous with
  | nil => rfl
  | cons char front ih => exact ih (some char)

/-- The place behind a piece of a text, before the rest of it. -/
def placeBehind (previous : Option Char) (done rest : List Char) : Place :=
  ⟨⟨lastOf previous done, rest.head?⟩, byteLength done, rest.head?⟩

/-- The threads that a search is left with behind a piece of a text, and the groups of the one that
is through there, if one is. -/
def reached (previous : Option Char) (done rest : List Char) (threads : List Thread) :
    List Thread × Option Groups :=
  let place : Place := ⟨⟨lastOf previous done, rest.head?⟩, byteLength done, rest.head?⟩
  untilFinish (threads.flatMap fun thread => thread.program.outcomes place [] thread.groups)

/-- The best way that a search knows of behind a piece of a text. -/
def bestAt (previous : Option Char) (done rest : List Char) (threads : List Thread)
    (best : Option Success) : Option Success :=
  ((reached previous done rest threads).2.map fun groups => ⟨byteLength done, groups⟩) <|> best

variable {previous : Option Char} {done rest : List Char} {threads : List Thread}
  {best : Option Success}

/-- The threads that a search is left with come from outcomes of the threads before them, and so does
the way that ends here. -/
theorem yields_of_reached :
    (∀ thread ∈ (reached previous done rest threads).1, ∃ earlier ∈ threads,
      earlier.program.Yields (placeBehind previous done rest) [] earlier.groups
        (.step thread.program thread.groups)) ∧
      ∀ groups ∈ (reached previous done rest threads).2, ∃ passed, ∃ thread ∈ threads,
        thread.program.Yields (placeBehind previous done rest) [] thread.groups
          (.finish passed groups) := by
  have sources : ∀ outcome ∈ threads.flatMap fun thread =>
      thread.program.outcomes (placeBehind previous done rest) [] thread.groups,
      ∃ thread ∈ threads, thread.program.Yields (placeBehind previous done rest) [] thread.groups
        outcome := by
    intro outcome member
    obtain ⟨thread, among, member⟩ := List.mem_flatMap.mp member
    exact ⟨thread, among, Program.mem_outcomes_iff.mp member⟩
  exact untilFinish_forall sources

/-- The best way is the one that ends here, or else the best way so far. -/
theorem bestAt_forall {property : Success → Prop} (known : ∀ found ∈ best, property found)
    (recent : ∀ groups ∈ (reached previous done rest threads).2,
      property ⟨byteLength done, groups⟩) :
    ∀ found ∈ bestAt previous done rest threads best, property found := by
  unfold bestAt
  cases finished : (reached previous done rest threads).2 with
  | none => simpa using known
  | some groups => simpa using recent groups finished

/-! ### A whole search -/

/-- What a search keeps from each place to the next one says what it reports in the end. -/
theorem advance_induction (invariant : List Char → List Char → List Thread → Option Success → Prop)
    (result : Option Success → Prop)
    (ends : ∀ done rest threads best, invariant done rest threads best →
      rest = [] ∨ (reached previous done rest threads).1 = [] →
      result (bestAt previous done rest threads best))
    (goes : ∀ done char rest threads best, invariant done (char :: rest) threads best →
      invariant (done ++ [char]) rest
        (distinctThreads (reached previous done (char :: rest) threads).1)
        (bestAt previous done (char :: rest) threads best))
    (holds : invariant done rest threads best) :
    result (advance (lastOf previous done) (byteLength done) threads rest best) := by
  induction rest generalizing done threads best with
  | nil =>
    have last := ends done [] threads best holds (.inl rfl)
    unfold bestAt reached at last
    unfold advance
    dsimp only at last ⊢
    split <;> first | exact last | contradiction
  | cons char rest ih =>
    have last := ends done (char :: rest) threads best holds
    have next := ih (goes done char rest threads best holds)
    rw [lastOf_append, byteLength_append] at next
    unfold bestAt reached at last next
    unfold advance
    dsimp only at last next ⊢
    -- Without threads the search is over before the end of the text.
    split
    next none => exact last (.inr none)
    next same _ => cases same
    next same _ =>
      cases same
      exact next

/-- What every outcome of a thread keeps from a place to the next one says what a search reports:
each of its threads goes back to the first one, outcome by outcome. -/
theorem Program.run_forall {program : Program} {text : List Char} {found : Success}
    (serves : List Char → List Char → Thread → Prop) (property : Success → Prop)
    (begins : serves [] text ⟨program, .none⟩)
    (steps : ∀ done char rest thread next later, text = done ++ char :: rest →
      serves done (char :: rest) thread →
      thread.program.Yields (placeBehind previous done (char :: rest)) [] thread.groups
        (.step next later) →
      serves (done ++ [char]) rest ⟨next, later⟩)
    (finishes : ∀ done rest thread passed later, text = done ++ rest → serves done rest thread →
      thread.program.Yields (placeBehind previous done rest) [] thread.groups
        (.finish passed later) →
      property ⟨byteLength done, later⟩)
    (run : program.run previous text = some found) : property found := by
  let invariant (done rest : List Char) (threads : List Thread) (best : Option Success) : Prop :=
    text = done ++ rest ∧ (∀ thread ∈ threads, serves done rest thread) ∧
      ∀ found ∈ best, property found
  have known (done rest : List Char) (threads : List Thread) (best : Option Success)
      (holds : invariant done rest threads best) :
      ∀ found ∈ bestAt previous done rest threads best, property found := by
    obtain ⟨split, serve, known⟩ := holds
    refine bestAt_forall known fun groups member => ?_
    obtain ⟨passed, thread, among, yields⟩ := yields_of_reached.2 groups member
    exact finishes done rest thread passed groups split (serve thread among) yields
  have first : invariant [] text [⟨program, .none⟩] none := ⟨rfl, by simpa using begins, by simp⟩
  refine advance_induction invariant (fun best => ∀ found ∈ best, property found)
    (fun done rest threads best holds _ => known done rest threads best holds) ?_ first found run
  intro done char rest threads best holds
  obtain ⟨split, serve, -⟩ := id holds
  refine ⟨by simp [split], fun thread member => ?_, known _ _ _ _ holds⟩
  obtain ⟨earlier, among, yields⟩ :=
    yields_of_reached.1 thread (mem_of_mem_distinctThreads member)
  exact steps done char rest earlier thread.program thread.groups split (serve earlier among) yields

end RuleLexer.Regex
