import RuleLexer.Regex.Expr

/-!
# Programs

A program is what remains to be matched. At a place in the text it either finishes without consuming
anything or consumes the character at that place and leaves another program. `Program.outcomes`
lists all of these possibilities, the preferred ones first, so that a program is run by following
outcomes from one character to the next.

Repetitions and choices inside a repetition that may be idle carry labels. The labels passed since
the last character are kept, and passing one a second time is a dead end: the round would repeat
itself forever without consuming anything. This makes the list of outcomes finite, and decides which
of several idle rounds is the one that counts.

A search keeps every program that may still go on as one thread of a list, the preferred ones first,
and advances all of them over the text one character at a time. Two threads with equal programs have
the same future, so only the first of them is kept, and the number of threads is bounded by the size
of the program and not by the length of the text.
-/
namespace RuleLexer.Regex

/-- What is left to be matched. -/
inductive Program
  | done
  /-- The characters one after the other. -/
  | literal (chars : List Char)
  | set (chars : CharSet)
  | look (assertion : Assertion)
  | seq (first second : Program)
  | alt (preferred other : Program)
  /-- A dead end if the label has been passed since the last character. -/
  | mark (label : Nat) (body : Program)
  /-- Rounds of the body, or none; greedy ones prefer another round. -/
  | rounds (label : Nat) (greedy : Bool) (body : Program)
  | openGroup (group : Nat)
  | closeGroup (group : Nat)
deriving DecidableEq, Repr

/-- A part of a text, from one offset up to another. -/
structure Extent where
  start : Nat
  stop : Nat
deriving DecidableEq, Repr

/-- What groups have matched: where the open ones started, and the closed ones. The latest entry of
a group comes first and hides the others. -/
structure Groups where
  opened : List (Nat × Nat)
  closed : List (Nat × Extent)
deriving DecidableEq, Repr

namespace Groups

def none : Groups := ⟨[], []⟩

/-- The latest entry of a group. -/
def latest? {α : Type} (group : Nat) : List (Nat × α) → Option α
  | [] => .none
  | (index, value) :: rest => if index = group then some value else latest? group rest

def get? (groups : Groups) (group : Nat) : Option Extent := latest? group groups.closed

def openAt (groups : Groups) (group offset : Nat) : Groups :=
  { groups with opened := (group, offset) :: groups.opened }

/-- Closes a group; one that has not been opened matches nothing. -/
def closeAt (groups : Groups) (group offset : Nat) : Groups :=
  match latest? group groups.opened with
  | some start => { groups with closed := (group, ⟨start, offset⟩) :: groups.closed }
  | .none => groups

end Groups

/-- What a program can do at a place. -/
inductive Outcome
  /-- It is through, having passed these labels since the last character. -/
  | finish (passed : List Nat) (groups : Groups)
  /-- It consumes the next character and leaves a program. -/
  | step (rest : Program) (groups : Groups)

/-- A place in a text: the characters around it, its offset, and the character to consume next. -/
structure Place where
  around : Around
  offset : Nat
  input : Option Char

namespace Program

/-- One program after the other. -/
def andThen (first second : Program) : Program :=
  match first with
  | done => second
  | first => seq first second

/-- The outcomes of a program at a place, the preferred ones first. -/
def outcomes (place : Place) : Program → List Nat → Groups → List Outcome
  | done, passed, groups => [.finish passed groups]
  | literal [], passed, groups => [.finish passed groups]
  | literal [char], _, groups => if place.input = some char then [.step done groups] else []
  | literal (char :: chars), _, groups =>
    if place.input = some char then [.step (literal chars) groups] else []
  | set chars, _, groups => if place.input.any chars.contains then [.step done groups] else []
  | look assertion, passed, groups =>
    if assertion.holds place.around then [.finish passed groups] else []
  | seq first second, passed, groups =>
    (outcomes place first passed groups).flatMap fun
      | .finish passed groups => outcomes place second passed groups
      | .step rest groups => [.step (rest.andThen second) groups]
  | alt preferred other, passed, groups =>
    outcomes place preferred passed groups ++ outcomes place other passed groups
  | mark label body, passed, groups =>
    if label ∈ passed then [] else outcomes place body (label :: passed) groups
  | rounds label greedy body, passed, groups =>
    if label ∈ passed then []
    else
      let further := (outcomes place body (label :: passed) groups).filterMap fun
        | .finish _ _ => none
        | .step rest groups => some (.step (rest.andThen (rounds label greedy body)) groups)
      let enough := Outcome.finish (label :: passed) groups
      if greedy then further ++ [enough] else enough :: further
  | openGroup group, passed, groups => [.finish passed (groups.openAt group place.offset)]
  | closeGroup group, passed, groups => [.finish passed (groups.closeAt group place.offset)]

end Program

/-- A program that may still go on, with what its groups have matched so far. -/
structure Thread where
  program : Program
  groups : Groups

/-- A way through a program: where it ends, and what its groups have matched. -/
structure Success where
  stop : Nat
  groups : Groups
deriving DecidableEq, Repr

/-- The threads before the first finished outcome, and that outcome. Whatever comes after it is less
preferred than finishing here. -/
def untilFinish : List Outcome → List Thread × Option Groups
  | [] => ([], none)
  | .finish _ groups :: _ => ([], some groups)
  | .step program groups :: rest =>
    let (threads, finished) := untilFinish rest
    (⟨program, groups⟩ :: threads, finished)

/-- Keeps the first thread of each program. -/
def distinctThreads : List Thread → List Thread
  | [] => []
  | thread :: rest =>
    thread :: (distinctThreads rest).filter fun other => other.program != thread.program

/-- Advances threads over a text from an offset on. A thread that finishes replaces the best way
found so far, since it is preferred to all that were found before it was still running. -/
def advance (previous : Option Char) (offset : Nat) (threads : List Thread) :
    List Char → Option Success → Option Success
  | text, best =>
    let place : Place := ⟨⟨previous, text.head?⟩, offset, text.head?⟩
    let (running, finished) :=
      untilFinish (threads.flatMap fun thread => thread.program.outcomes place [] thread.groups)
    let best := (finished.map fun groups => ⟨offset, groups⟩) <|> best
    match text, running with
    | _, [] | [], _ => best
    | char :: rest, running =>
      advance (some char) (offset + char.utf8Size) (distinctThreads running) rest best

/-- The preferred way through a program at the beginning of a text, with offsets counted from there.
`previous` is the character before the text. -/
def Program.run (program : Program) (previous : Option Char) (text : List Char) : Option Success :=
  advance previous 0 [⟨program, .none⟩] text none

end RuleLexer.Regex
