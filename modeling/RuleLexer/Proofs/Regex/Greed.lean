import RuleLexer.Proofs.Regex.Paths

/-!
# Greedy ends

A program that ends in greedy rounds of a set cannot stop before a member of the set: wherever it is
through, another round is preferred. A search keeps such a preference from place to place as a
thread that consists of the rounds alone, and this thread is through at every place, so a way that
ends earlier is replaced for as long as members follow.

Which of several ways is reported matters here, so this cannot be read off the ways through a
program.

## Main results

* `Program.not_contains_of_run`: after what a program with a greedy end matches, no member of the
  set follows.
* `Pattern.not_contains_of_matchHere?`: the same for a pattern.
-/
namespace RuleLexer

open Text

namespace Regex

/-- What a program does last. -/
def Program.last : Program → Program
  | seq _ second => second.last
  | program => program

theorem Program.last_andThen {first second : Program} :
    (first.andThen second).last = second.last := by
  unfold andThen
  split <;> rfl

/-! ### Outcomes and the first finish -/

theorem untilFinish_append (outcomes more : List Outcome) :
    untilFinish (outcomes ++ more) =
      if (untilFinish outcomes).2.isSome then untilFinish outcomes
      else ((untilFinish outcomes).1 ++ (untilFinish more).1, (untilFinish more).2) := by
  induction outcomes with
  | nil => simp [untilFinish]
  | cons outcome rest ih =>
    cases outcome with
    | finish passed groups => simp [untilFinish]
    | step program groups =>
      rw [List.cons_append, untilFinish, untilFinish, ih]
      cases (untilFinish rest).2 <;> rfl

/-- One of the threads is made of a program. -/
def Runs (program : Program) (threads : List Thread) : Prop :=
  ∃ thread ∈ threads, thread.program = program

/-- If anything is through, a program goes on that is preferred to it. -/
def Prefers (program : Program) (outcomes : List Outcome) : Prop :=
  (untilFinish outcomes).2.isSome → Runs program (untilFinish outcomes).1

theorem Prefers.append {program : Program} {outcomes more : List Outcome}
    (first : Prefers program outcomes) (second : Prefers program more) :
    Prefers program (outcomes ++ more) := by
  unfold Prefers Runs at *
  rw [untilFinish_append]
  split
  next finished => exact fun _ => first finished
  next =>
    intro finished
    obtain ⟨thread, member, same⟩ := second finished
    exact ⟨thread, List.mem_append_right _ member, same⟩

theorem Prefers.flatMap {α : Type} {program : Program} {values : List α}
    {outcomes : α → List Outcome}
    (every : ∀ value ∈ values, Prefers program (outcomes value)) :
    Prefers program (values.flatMap outcomes) := by
  induction values with
  | nil => exact fun finished => nomatch finished
  | cons value rest ih =>
    rw [List.flatMap_cons]
    exact (every value List.mem_cons_self).append
      (ih fun value member => every value (List.mem_cons_of_mem _ member))

theorem untilFinish_isSome_of_mem {outcomes : List Outcome} {passed : List Nat} {groups : Groups}
    (member : .finish passed groups ∈ outcomes) : (untilFinish outcomes).2.isSome := by
  induction outcomes with
  | nil => cases member
  | cons outcome rest ih =>
    cases outcome with
    | finish => rfl
    | step program later =>
      rcases List.mem_cons.mp member with same | member
      · cases same
      · exact ih member

/-! ### One place -/

namespace Program

/-- Greedy rounds of a set. -/
def greed (label : Nat) (chars : CharSet) : Program := rounds label true (set chars)

variable {label : Nat} {chars : CharSet} {place : Place} {passed : List Nat} {groups : Groups}

/-- Rounds of a set go through any characters of the set. -/
theorem matches_greed {previous : Option Char} {offset : Nat} {front back : List Char}
    (members : ∀ char ∈ front, chars.contains char) :
    (greed label chars).Matches previous offset groups front back groups := by
  induction front generalizing previous offset with
  | nil => exact .enough
  | cons char front ih =>
    obtain ⟨member, members⟩ := List.forall_mem_cons.mp members
    exact .further (.set member) (ih members)

theorem outcomes_greed :
    (greed label chars).outcomes place passed groups =
      if label ∈ passed then []
      else if place.input.any chars.contains then
        [.step (greed label chars) groups, .finish (label :: passed) groups]
      else [.finish (label :: passed) groups] := by
  by_cases follows : place.input.any chars.contains <;> simp [greed, outcomes, follows, andThen]

/-- However a program goes on, it ends in the same rounds. -/
theorem last_of_step {program rest : Program} {later : Groups}
    (ends : program.last = greed label chars)
    (yields : program.Yields place passed groups (.step rest later)) :
    rest.last = greed label chars := by
  induction program generalizing passed groups rest later with
  | seq first second _ ihSecond =>
    cases yields with
    | through _ tail => exact ihSecond ends tail
    | onwards _ => exact last_andThen.trans ends
  | rounds =>
    -- Behind a round the same rounds are left.
    cases yields with
    | further _ _ => exact last_andThen.trans ends
  | done | literal | set | look | alt | mark | openGroup | closeGroup => cases ends

/-- Before a member of the set, a program that ends in rounds goes on as the rounds before it is
through. -/
theorem prefers_greed {program : Program} (ends : program.last = greed label chars)
    (follows : place.input.any chars.contains) :
    Prefers (greed label chars) (program.outcomes place passed groups) := by
  induction program generalizing passed groups with
  | seq first second _ ihSecond =>
    refine Prefers.flatMap ?_
    intro outcome _
    cases outcome with
    | finish passed groups => exact ihSecond ends
    | step between groups =>
      -- The first part has consumed the character, so nothing is through.
      exact fun finished => nomatch finished
  | rounds =>
    simp only [last] at ends
    rw [ends, outcomes_greed, if_pos follows]
    split
    · exact fun finished => nomatch finished
    · exact fun _ => ⟨_, List.mem_cons_self, rfl⟩
  | done | literal | set | look | alt | mark | openGroup | closeGroup => cases ends

end Program

/-! ### A whole search -/

/-- No member of a set follows a way through a text. -/
def Success.Stops (chars : CharSet) (text : List Char) (found : Success) : Prop :=
  ∀ front back, text = front ++ back → byteLength front = found.stop →
    ∀ char ∈ back.head?, ¬chars.contains char

theorem Runs.distinctThreads {program : Program} {threads : List Thread}
    (runs : Runs program threads) : Runs program (distinctThreads threads) := by
  induction threads with
  | nil => exact runs
  | cons first rest ih =>
    obtain ⟨thread, member, rfl⟩ := runs
    -- Of threads with the same program the first one is kept.
    by_cases same : thread.program = first.program
    · exact ⟨first, List.mem_cons_self, same.symm⟩
    · have later : thread ∈ rest :=
        (List.mem_cons.mp member).resolve_left fun here => same (here ▸ rfl)
      obtain ⟨other, among, equal⟩ := ih ⟨thread, later, rfl⟩
      refine ⟨other, List.mem_cons_of_mem _ (List.mem_filter.mpr ⟨among, ?_⟩), equal⟩
      simpa [equal] using same

section Search

variable {label : Nat} {chars : CharSet} {previous : Option Char} {done rest text : List Char}
  {threads : List Thread} {best : Option Success}

/-- The rounds are through at every place. -/
theorem reached_isSome_of_runs (runs : Runs (.greed label chars) threads) :
    (reached previous done rest threads).2.isSome := by
  obtain ⟨thread, member, same⟩ := runs
  have through : Outcome.finish [label] thread.groups ∈ thread.program.outcomes
      ⟨⟨lastOf previous done, rest.head?⟩, byteLength done, rest.head?⟩ [] thread.groups := by
    rw [same, Program.outcomes_greed, if_neg (by simp)]
    split <;> simp
  exact untilFinish_isSome_of_mem (List.mem_flatMap.mpr ⟨thread, member, through⟩)

/-- Where a member of the set follows and anything is through, the rounds run on. -/
theorem runs_of_follows (ends : ∀ thread ∈ threads, thread.program.last = .greed label chars)
    (follows : rest.head?.any chars.contains)
    (through : (reached previous done rest threads).2.isSome) :
    Runs (.greed label chars) (reached previous done rest threads).1 :=
  Prefers.flatMap (fun thread member => Program.prefers_greed (ends thread member) follows) through

/-- What a search for a program that ends in rounds keeps: the rounds are on their way, or the best
way so far stops before no member of the set. -/
structure Greedy (label : Nat) (chars : CharSet) (text done rest : List Char)
    (threads : List Thread) (best : Option Success) : Prop where
  split : text = done ++ rest
  ends : ∀ thread ∈ threads, thread.program.last = .greed label chars
  stops : Runs (.greed label chars) threads ∨ ∀ found ∈ best, found.Stops chars text

/-- One place of a search. If no member of the set follows, whatever is through here stops here. -/
theorem Greedy.at_place (greedy : Greedy label chars text done rest threads best) :
    rest.head?.any chars.contains ∧
        Runs (.greed label chars) (reached previous done rest threads).1 ∨
      ∀ found ∈ bestAt previous done rest threads best, found.Stops chars text := by
  obtain ⟨rfl, ends, stops⟩ := greedy
  cases finished : (reached previous done rest threads).2 with
  | none =>
    -- The rounds would be through here, so they are not among the threads.
    have idle : ¬Runs (.greed label chars) threads := by
      intro runs
      have through : (reached previous done rest threads).2.isSome := reached_isSome_of_runs runs
      rw [finished] at through
      cases through
    right
    unfold bestAt
    rw [finished]
    exact stops.resolve_left idle
  | some groups =>
    by_cases follows : rest.head?.any chars.contains
    · exact .inl ⟨follows, runs_of_follows ends follows (finished ▸ rfl)⟩
    · right
      unfold bestAt
      rw [finished]
      intro found member front back split size char next contained
      have stop : byteLength done = byteLength front := by
        rw [size, ← Option.some.inj member]
      obtain ⟨-, rfl⟩ := append_inj_of_byteLength_eq split stop
      rw [Option.mem_def.mp next] at follows
      exact follows contained

theorem Greedy.next {char : Char}
    (greedy : Greedy label chars text done (char :: rest) threads best) :
    Greedy label chars text (done ++ [char]) rest
      (distinctThreads (reached previous done (char :: rest) threads).1)
      (bestAt previous done (char :: rest) threads best) where
  split := by simp [greedy.split]
  ends := by
    intro thread member
    obtain ⟨earlier, among, yields⟩ :=
      yields_of_reached.1 thread (mem_of_mem_distinctThreads member)
    exact Program.last_of_step (greedy.ends earlier among) yields
  stops := greedy.at_place.imp (fun here => here.2.distinctThreads) id

end Search

/-- After what a program with a greedy end matches, no member of the set follows. -/
theorem Program.not_contains_of_run {program : Program} {label : Nat} {chars : CharSet}
    (ends : program.last = .greed label chars) {previous : Option Char} {front back : List Char}
    {found : Success} (run : program.run previous (front ++ back) = some found)
    (size : byteLength front = found.stop) : ∀ char ∈ back.head?, ¬chars.contains char := by
  have begins : Greedy label chars (front ++ back) [] (front ++ back) [⟨program, .none⟩] none :=
    ⟨rfl, by simpa using ends, .inr (by simp)⟩
  have stops : ∀ found ∈ program.run previous (front ++ back),
      found.Stops chars (front ++ back) := by
    refine advance_induction (Greedy label chars (front ++ back))
      (fun best => ∀ found ∈ best, found.Stops chars (front ++ back)) ?_
      (fun _ _ _ _ _ greedy => greedy.next) begins
    intro done rest threads best greedy ended
    -- Rounds that run on need a character and a thread, and the search lacks one of them.
    refine greedy.at_place.resolve_left ?_
    rintro ⟨follows, runs⟩
    rcases ended with rfl | none
    · cases follows
    · obtain ⟨thread, member, -⟩ := runs
      rw [none] at member
      cases member
  exact stops found run front back rfl size

end Regex

/-- After what a pattern with a greedy end matches, no member of the set follows. -/
theorem Pattern.not_contains_of_matchHere? {pattern : Pattern} {label : Nat} {chars : CharSet}
    (ends : pattern.program.last = .greed label chars) {before front back : List Char}
    {found : Match} (matched : pattern.matchHere? before (front ++ back) = some found)
    (size : byteLength front = found.stop) : ∀ char ∈ back.head?, ¬chars.contains char := by
  unfold matchHere? at matched
  split at matched
  · obtain ⟨success, run, rfl⟩ := Option.map_eq_some_iff.mp matched
    exact Regex.Program.not_contains_of_run ends run size
  · cases matched

end RuleLexer
