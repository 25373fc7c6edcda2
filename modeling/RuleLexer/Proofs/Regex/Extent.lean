import RuleLexer.Proofs.Regex.Search

/-!
# Extents of matches

A match ends between two characters of the text that it starts at, and so does every group, none of
which reaches past the end of the match. The threads of a search record offsets only at places that
the search has come to, so it is enough to follow what they have recorded from place to place.

## Main result

`Pattern.matchHere?_within`: the end of a match and the extents of its groups are boundaries of the
text from the place on, and the groups lie inside the match.
-/
namespace RuleLexer

open Text

namespace Regex

/-- The extent begins and ends between characters of a text, in this order and not after an
offset. -/
structure Extent.Within (text : List Char) (offset : Nat) (extent : Extent) : Prop where
  ordered : extent.start ≤ extent.stop
  bounded : extent.stop ≤ offset
  starts : IsBoundary text extent.start
  stops : IsBoundary text extent.stop

/-- Whatever has been recorded of groups was recorded at places up to an offset. -/
structure Groups.Within (text : List Char) (offset : Nat) (groups : Groups) : Prop where
  opened : ∀ entry ∈ groups.opened, entry.2 ≤ offset ∧ IsBoundary text entry.2
  closed : ∀ entry ∈ groups.closed, entry.2.Within text offset

namespace Groups

variable {text : List Char} {offset : Nat} {groups : Groups}

theorem latest?_mem {α : Type} {group : Nat} {value : α} {entries : List (Nat × α)}
    (found : latest? group entries = some value) : (group, value) ∈ entries := by
  induction entries with
  | nil => cases found
  | cons entry rest ih =>
    obtain ⟨index, first⟩ := entry
    simp only [latest?] at found
    split at found
    next same =>
      subst same
      cases found
      exact List.mem_cons_self
    next => exact List.mem_cons_of_mem _ (ih found)

theorem none_within (text : List Char) (offset : Nat) : Groups.none.Within text offset :=
  ⟨fun _ member => (nomatch member), fun _ member => (nomatch member)⟩

theorem Within.mono (within : groups.Within text offset) {further : Nat}
    (le : offset ≤ further) : groups.Within text further where
  opened entry member := ⟨Nat.le_trans (within.opened entry member).1 le,
    (within.opened entry member).2⟩
  closed entry member :=
    let extent := within.closed entry member
    ⟨extent.ordered, Nat.le_trans extent.bounded le, extent.starts, extent.stops⟩

theorem Within.openAt (within : groups.Within text offset) (boundary : IsBoundary text offset)
    (group : Nat) : (groups.openAt group offset).Within text offset where
  opened := by
    intro entry member
    rcases List.mem_cons.mp member with rfl | member
    · exact ⟨Nat.le_refl _, boundary⟩
    · exact within.opened entry member
  closed := within.closed

theorem Within.closeAt (within : groups.Within text offset) (boundary : IsBoundary text offset)
    (group : Nat) : (groups.closeAt group offset).Within text offset := by
  unfold Groups.closeAt
  split
  next start found =>
    obtain ⟨before, starts⟩ := within.opened _ (latest?_mem found)
    refine ⟨within.opened, ?_⟩
    intro entry member
    rcases List.mem_cons.mp member with rfl | member
    · exact ⟨before, Nat.le_refl _, starts, boundary⟩
    · exact within.closed entry member
  next => exact within

theorem Within.get? (within : groups.Within text offset) {group : Nat} {extent : Extent}
    (found : groups.get? group = some extent) : extent.Within text offset :=
  within.closed _ (latest?_mem found)

end Groups

/-! ### One place -/

def Outcome.groups : Outcome → Groups
  | finish _ groups => groups
  | step _ groups => groups

/-- What a program records at a place is recorded at the offset of the place. -/
theorem Program.Yields.within {text : List Char} {place : Place} {program : Program}
    {passed : List Nat} {groups : Groups} {outcome : Outcome}
    (yields : program.Yields place passed groups outcome)
    (boundary : IsBoundary text place.offset) (recorded : groups.Within text place.offset) :
    outcome.groups.Within text place.offset := by
  induction yields with
  | done | spelled | last | spell | set | look | enough => exact recorded
  | through head tail ihHead ihTail => exact ihTail (ihHead recorded)
  | onwards _ ih | preferred _ ih | other _ ih | mark _ _ ih | further _ _ ih => exact ih recorded
  | openGroup => exact recorded.openAt boundary _
  | closeGroup => exact recorded.closeAt boundary _

/-! ### A whole search -/

/-- A way through a program ends between characters, and its groups are recorded up to there. -/
structure Success.Within (text : List Char) (success : Success) : Prop where
  stops : IsBoundary text success.stop
  groups : success.groups.Within text success.stop

theorem Program.run_within {program : Program} {previous : Option Char} {text : List Char}
    {success : Success} (found : program.run previous text = some success) :
    success.Within text := by
  refine run_forall (fun done _ thread => thread.groups.Within text (byteLength done))
    (Success.Within text) (Groups.none_within text 0) ?_ ?_ found
  · intro done char rest thread next later split recorded yields
    have boundary : IsBoundary text (byteLength done) := ⟨done, _, split, rfl⟩
    -- The threads that run on have recorded nothing past this place, so nothing past the next.
    have le : byteLength done ≤ byteLength (done ++ [char]) :=
      byteLength_append done [char] ▸ Nat.le_add_right _ _
    exact (yields.within boundary recorded).mono le
  · intro done rest thread passed later split recorded yields
    have boundary : IsBoundary text (byteLength done) := ⟨done, _, split, rfl⟩
    exact ⟨boundary, yields.within boundary recorded⟩

end Regex

/-- A match ends between characters of a text, and so do its groups, none of them after its end. -/
structure Match.Within (text : List Char) (found : Match) : Prop where
  stops : IsBoundary text found.stop
  groups : ∀ extent, some extent ∈ found.groups → extent.Within text found.stop

theorem Pattern.matchHere?_within {pattern : Pattern} {before after : List Char} {found : Match}
    (matched : pattern.matchHere? before after = some found) : found.Within after := by
  unfold matchHere? at matched
  split at matched
  · obtain ⟨success, run, rfl⟩ := Option.map_eq_some_iff.mp matched
    have within := Regex.Program.run_within run
    refine ⟨within.stops, ?_⟩
    intro extent member
    obtain ⟨index, -, hextent⟩ := List.mem_map.mp member
    exact within.groups.get? hextent
  · cases matched

end RuleLexer
