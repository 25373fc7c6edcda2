import RuleLexer.Proofs.Engine.Exchange
import RuleLexer.Proofs.Engine.Origin
import RuleLexer.Proofs.Engine.Safety
import RuleLexer.Proofs.Tokens.Delivery

/-!
# Classification by groups

A rule with groups hands the parts of its match to the actions of the groups. The groups are gone
through in the order of their numbers, and what has been covered only grows, so a byte belongs to
the first of the groups that match it, as long as no group with a lower number begins after it. Such
a group can only come of a repetition, in which a group of a later round has a lower number than one
of an earlier round: then what lies before it has been left as text already.

## Main results

* `Part.exists_owned`, `Part.exists_skipped_before`, `Part.exists_skipped_after`: which part of a
  match a byte lies in.
* `tokenizeFrom_classifies`: what becomes of each byte of a match with groups.
-/
namespace RuleLexer

open Text Regex

/-- A byte lies in an extent. -/
def Regex.Extent.Contains (extent : Extent) (byte : Nat) : Prop :=
  extent.start ≤ byte ∧ byte < extent.stop

/-! ### Parts of a match -/

namespace Part

/-- Groups with their actions, in the order of their numbers. -/
abbrev Grouping := List (GroupAction × Option Extent)

/-- How far groups reach. -/
def reach (covered : Nat) (groups : Grouping) : Nat :=
  (groups.filterMap Prod.snd).foldl (fun covered extent => max covered extent.stop) covered

/-- All groups end at a byte or before it. -/
def EndBy (byte : Nat) (groups : Grouping) : Prop :=
  ∀ entry ∈ groups, ∀ extent ∈ entry.2, extent.stop ≤ byte

/-- No group ends before it begins. -/
def Ordered (groups : Grouping) : Prop :=
  ∀ entry ∈ groups, ∀ extent ∈ entry.2, extent.start ≤ extent.stop

/-- A byte lies in a part, for which an action is taken. -/
def Takes (part : Part) (byte : Nat) (action : GroupAction) : Prop :=
  part.start ≤ byte ∧ byte < part.stop ∧ part.action = action

variable {covered stop byte : Nat} {lower higher groups : Grouping} {action : GroupAction}
  {extent : Extent}

theorem reach_cons_some : reach covered ((action, some extent) :: groups) =
    reach (max covered extent.stop) groups := rfl

theorem reach_le (le : covered ≤ byte) (ended : EndBy byte groups) :
    reach covered groups ≤ byte := by
  induction groups generalizing covered with
  | nil => exact le
  | cons entry rest ih =>
    obtain ⟨here, later⟩ := List.forall_mem_cons.mp ended
    obtain ⟨action, _ | extent⟩ := entry
    · exact ih le later
    · exact ih (Nat.max_le.mpr ⟨le, here extent rfl⟩) later

/-- After some groups the parts go on from where these reach. -/
theorem exists_ofGroups_append (covered : Nat) (lower rest : Grouping) (stop : Nat) :
    ∃ front, ofGroups covered (lower ++ rest) stop =
      front ++ ofGroups (reach covered lower) rest stop := by
  induction lower generalizing covered with
  | nil => exact ⟨[], rfl⟩
  | cons entry lower ih =>
    obtain ⟨action, _ | extent⟩ := entry
    · exact ih covered
    · simp only [List.cons_append, ofGroups, reach_cons_some]
      split
      next le =>
        rw [Nat.max_eq_left le]
        exact ih covered
      next reaches =>
        have furthest : max covered extent.stop = extent.stop := Nat.max_eq_right (by omega)
        obtain ⟨front, same⟩ := ih extent.stop
        rw [furthest, same, ← List.append_assoc]
        exact ⟨_, rfl⟩

/-- A group takes what the groups with lower numbers have left of it. -/
theorem exists_taken (action : GroupAction) (higher : Grouping) (stop : Nat)
    (proper : max extent.start (reach 0 lower) < extent.stop) :
    ∃ front back, ofGroups 0 (lower ++ (action, some extent) :: higher) stop =
      front ++ ⟨max extent.start (reach 0 lower), extent.stop, action⟩ :: back := by
  obtain ⟨front, same⟩ := exists_ofGroups_append 0 lower ((action, some extent) :: higher) stop
  have further : ¬extent.stop ≤ reach 0 lower := by omega
  rw [same, ofGroups, if_neg further]
  simp only [nonempty, if_pos proper]
  exact ⟨front ++ _, _, by simp only [List.append_assoc, List.singleton_append]; rfl⟩

/-- A byte in a group, after all groups with lower numbers, is taken by the group, from where these
reach on. -/
theorem exists_owned (ended : EndBy byte lower) (contains : extent.Contains byte) :
    ∃ front back, ofGroups 0 (lower ++ (action, some extent) :: higher) stop =
      front ++ ⟨max extent.start (reach 0 lower), extent.stop, action⟩ :: back := by
  have le := reach_le (Nat.zero_le byte) ended
  obtain ⟨starts, stops⟩ := contains
  exact exists_taken action higher stop (by omega)

/-- A byte before a group, after all groups with lower numbers, is skipped. -/
theorem exists_skipped_before (ended : EndBy byte lower) (later : byte < extent.start)
    (ordered : extent.start ≤ extent.stop) :
    ∃ front part back, ofGroups 0 (lower ++ (action, some extent) :: higher) stop =
      front ++ part :: back ∧ part.Takes byte .skip := by
  obtain ⟨front, same⟩ := exists_ofGroups_append 0 lower ((action, some extent) :: higher) stop
  have le := reach_le (Nat.zero_le byte) ended
  have further : ¬extent.stop ≤ reach 0 lower := by omega
  have gap : reach 0 lower < max extent.start (reach 0 lower) := by omega
  rw [same, ofGroups, if_neg further]
  simp only [nonempty, if_pos gap]
  refine ⟨front, _, _, by simp only [List.singleton_append]; rfl, le, ?_, rfl⟩
  exact lt_of_lt_of_le later (Nat.le_max_left _ _)

/-- A byte after all groups is skipped. -/
theorem exists_skipped_after (ended : EndBy byte groups) (inside : byte < stop) :
    ∃ front part back, ofGroups 0 groups stop = front ++ part :: back ∧
      part.Takes byte .skip := by
  obtain ⟨front, same⟩ := exists_ofGroups_append 0 groups [] stop
  have le := reach_le (Nat.zero_le byte) ended
  have gap : reach 0 groups < stop := by omega
  rw [List.append_nil] at same
  rw [same, ofGroups, nonempty, if_pos gap]
  exact ⟨front, _, [], rfl, le, inside, rfl⟩

/-- Groups that do not contain a byte end before it, up to the first one that begins after it. -/
theorem endBy_or_exists_later
    (without : ∀ entry ∈ groups, ∀ extent ∈ entry.2, ¬extent.Contains byte) :
    EndBy byte groups ∨ ∃ lower action extent higher,
      groups = lower ++ (action, some extent) :: higher ∧ EndBy byte lower ∧
        byte < extent.start := by
  induction groups with
  | nil => exact .inl fun entry member => nomatch member
  | cons entry rest ih =>
    obtain ⟨here, without⟩ := List.forall_mem_cons.mp without
    by_cases ends : ∀ extent ∈ entry.2, extent.stop ≤ byte
    · rcases ih without with ended | ⟨lower, action, extent, higher, rfl, ended, later⟩
      · exact .inl (List.forall_mem_cons.mpr ⟨ends, ended⟩)
      · exact .inr ⟨entry :: lower, action, extent, higher, rfl,
          List.forall_mem_cons.mpr ⟨ends, ended⟩, later⟩
    · obtain ⟨action, _ | extent⟩ := entry
      · exact absurd (fun extent member => nomatch member) ends
      · -- The group goes on past the byte without containing it, so it begins after it.
        have outside := here extent rfl
        simp only [Option.mem_def, Option.some.injEq, forall_eq'] at ends
        have later : byte < extent.start := by
          simp only [Extent.Contains] at outside
          omega
        exact .inr ⟨[], action, extent, rest, rfl, (fun _ member => nomatch member), later⟩

/-- A byte that no group contains is skipped. -/
theorem exists_skipped (inside : byte < stop) (ordered : Ordered groups)
    (without : ∀ entry ∈ groups, ∀ extent ∈ entry.2, ¬extent.Contains byte) :
    ∃ front part back, ofGroups 0 groups stop = front ++ part :: back ∧
      part.Takes byte .skip := by
  rcases endBy_or_exists_later without with
    ended | ⟨lower, action, extent, higher, rfl, ended, later⟩
  · exact exists_skipped_after ended inside
  · exact exists_skipped_before ended later
      (ordered _ (List.mem_append_right _ List.mem_cons_self) extent rfl)

/-- A byte that no group with a lower number contains is skipped if one of these begins after it. -/
theorem exists_passed_over (ordered : Ordered lower)
    (without : ∀ entry ∈ lower, ∀ extent ∈ entry.2, ¬extent.Contains byte)
    (later : ∃ entry ∈ lower, ∃ extent ∈ entry.2, byte < extent.start) :
    ∃ front part back, ofGroups 0 (lower ++ higher) stop = front ++ part :: back ∧
      part.Takes byte .skip := by
  rcases endBy_or_exists_later without with ended | ⟨near, action, extent, far, rfl, ended, begins⟩
  · obtain ⟨entry, member, extent, matched, begins⟩ := later
    have ends := ended entry member extent matched
    have ordered := ordered entry member extent matched
    omega
  · rw [List.append_assoc]
    exact exists_skipped_before ended begins
      (ordered _ (List.mem_append_right _ List.mem_cons_self) extent rfl)

end Part

/-! ### Tokens of a match -/

namespace Engine

/-- The tokens that an action makes of a part of the text, given in bytes from the cursor. -/
inductive Renders (library : Library) (engine : Engine) (start stop : Nat) :
    GroupAction → List Token → Prop
  | kind (kind : TokenKind) : Renders library engine start stop (.kind kind)
      [⟨kind, engine.cursor + start, engine.cursor + stop⟩]
  | skip : Renders library engine start stop .skip
      [⟨.text, engine.cursor + start, engine.cursor + stop⟩]
  /-- A tokenization that would be nested too deeply leaves the part as text. -/
  | capped (delegate : Delegate)
      (deepest : engine.table.options.run.maxDelegateDepth ≤ engine.depth) :
      Renders library engine start stop (.delegate delegate)
        [⟨.text, engine.cursor + start, engine.cursor + stop⟩]
  | delegate {delegate : Delegate} {target : RuleTable} {piece : List Char}
      (allowed : engine.depth < engine.table.options.run.maxDelegateDepth)
      (named : delegate.target.table? library engine.table = some target)
      (sliced : slice? engine.text (engine.cursor + start) (engine.cursor + stop) = some piece) :
      Renders library engine start stop (.delegate delegate)
        (((Engine.start target piece (delegate.state.getD RuleTable.rootName)
          (engine.depth + 1)).run library).1.map (Token.shift (engine.cursor + start)))

variable {library : Library} {engine : Engine} {rule : Rule} {found : Match} {part : Part}

/-- What is put out for a part of a match is what its action makes of the part. -/
theorem Faultless.renders (faultless : engine.Faultless library)
    (fires : engine.firing? = some (rule, found)) (among : part ∈ Part.ofMatch rule.action found) :
    engine.Renders library part.start part.stop part.action
      (Item.tokens library [engine.itemOf library part]) := by
  obtain ⟨member, matched, -⟩ := firing?_eq_some fires
  obtain ⟨start, stop, action⟩ := part
  cases action with
  | kind kind =>
    simp only [itemOf, tokenOver, Item.tokens]
    exact .kind kind
  | skip =>
    simp only [itemOf, tokenOver, Item.tokens]
    exact .skip
  | delegate delegate =>
    by_cases allowed : engine.depth < engine.table.options.run.maxDelegateDepth
    · obtain ⟨target, piece, named, -, -, sliced, -, same⟩ :=
        faultless.delegates rule member found matched _ among delegate rfl
      rw [itemOf_of_allowed library rfl allowed, same]
      simp only [Item.tokens, List.append_nil]
      exact .delegate allowed named sliced
    · simp only [itemOf, if_neg allowed, tokenOver, Item.tokens]
      exact .capped delegate (Nat.le_of_not_lt allowed)

/-- The tokens of a part of a match stand together among those of the step. -/
theorem tokens_itemOf_infix {front back : List Part}
    (fires : engine.firing? = some (rule, found))
    (split : Part.ofMatch rule.action found = front ++ part :: back) :
    Item.tokens library [engine.itemOf library part] <:+:
      Item.tokens library (engine.step library).1 := by
  have items : (engine.step library).1 = front.map (engine.itemOf library) ++
      ([engine.itemOf library part] ++ back.map (engine.itemOf library)) := by
    simp [step, fires, fire, split]
  rw [items, Item.tokens_append, Item.tokens_append]
  exact ⟨_, _, List.append_assoc _ _ _⟩

end Engine

/-- A byte of a match, counted from the cursor of an engine, lies in a part, and what the action of
the part makes of it stands together among the tokens of a text. The text of the engine begins at an
offset of this text. -/
structure Engine.Classifies (library : Library) (engine : Engine) (base : Nat)
    (tokens : List Token) (byte : Nat) (part : Part) : Prop where
  starts : part.start ≤ byte
  stops : byte < part.stop
  delivered : ∃ output, engine.Renders library part.start part.stop part.action output ∧
    output.map (Token.shift base) <:+: tokens

/-- The groups of a match with the actions for them. No group ends before it begins. -/
theorem Match.Within.ordered {text : List Char} {found : Match} (within : found.Within text)
    (actions : List GroupAction) : Part.Ordered (actions.zip found.groups) := by
  intro entry member extent matched
  have among := (List.of_mem_zip member).2
  rw [Option.mem_def.mp matched] at among
  exact (within.groups extent among).ordered

/-- **Classification by groups.** Let a rule with groups fire somewhere in a tokenization, be it
nested, with tables that have been built. A byte of the match that lies in no group is text. A byte
that lies in a group, but in none with a lower number, is given to the action of this group together
with the rest of the group that groups with lower numbers have not covered, unless one of these
begins after the byte; if one does, the byte is text. -/
theorem tokenizeFrom_classifies {library : Library} {table : RuleTable} {state : String}
    (tables : library.Built) (built : table.BuiltFrom library) (known : table.hasState state)
    {text : List Char} {base : Nat} {engine : Engine}
    (arises : Engine.Arises library (.start table text state 0) base engine)
    {rule : Rule} {found : Match} (fires : engine.firing? = some (rule, found))
    {actions : List GroupAction} (grouped : rule.action = .byGroups actions) {byte : Nat}
    (inside : byte < found.stop) :
    let groups := actions.zip found.groups
    let tokens := (table.tokenizeFrom library text state).drain.1
    ((∀ entry ∈ groups, ∀ extent ∈ entry.2, ¬extent.Contains byte) →
      ∃ start stop, engine.Classifies library base tokens byte ⟨start, stop, .skip⟩) ∧
    ∀ lower action extent higher, groups = lower ++ (action, some extent) :: higher →
      extent.Contains byte → (∀ entry ∈ lower, ∀ other ∈ entry.2, ¬other.Contains byte) →
        ((∀ entry ∈ lower, ∀ other ∈ entry.2, other.start ≤ byte) →
          engine.Classifies library base tokens byte
            ⟨max extent.start (Part.reach 0 lower), extent.stop, action⟩) ∧
        ((∃ entry ∈ lower, ∃ other ∈ entry.2, byte < other.start) →
          ∃ start stop, engine.Classifies library base tokens byte ⟨start, stop, .skip⟩) := by
  intro groups tokens
  have begun := Engine.consistent_start built.closed known text 0
  have faultless : engine.Faultless library :=
    (arises.reaches.consistent (fun _ => tables.closed) begun).faultless fun _ => tables.closed
  have matched := (Engine.firing?_eq_some fires).2.1
  have ordered : Part.Ordered groups := (Pattern.matchHere?_within matched).ordered actions
  have nonempty : engine.after ≠ [] := by
    obtain ⟨front, back, split, size⟩ := (Pattern.matchHere?_within matched).stops
    rintro drained
    rw [drained] at split
    obtain ⟨rfl, -⟩ := List.append_eq_nil_iff.mp split.symm
    simp only [byteLength] at size
    omega
  -- Whatever part of the match the byte lies in, the tokens of the part are delivered.
  have classified {front back : List Part} {part : Part}
      (split : Part.ofGroups 0 groups found.stop = front ++ part :: back)
      (starts : part.start ≤ byte) (stops : byte < part.stop) :
      engine.Classifies library base tokens byte part := by
    have split : Part.ofMatch rule.action found = front ++ part :: back := by
      rwa [grouped]
    have among : part ∈ Part.ofMatch rule.action found := by simp [split]
    refine ⟨starts, stops, _, faultless.renders fires among, ?_⟩
    have step : Item.tokens library [engine.itemOf library part] <:+:
        (engine.run library).1 := by
      rw [Engine.run_of_nonempty nonempty]
      exact (Engine.tokens_itemOf_infix fires split).trans (List.prefix_append _ _).isInfix
    have whole : tokens = ((Engine.start table text state 0).run library).1 :=
      (Tokens.drain_start library table text state).1
    rw [whole]
    exact (step.map _).trans arises.map_shift_run_infix
  have skipped (here : ∃ front part back, Part.ofGroups 0 groups found.stop =
      front ++ part :: back ∧ part.Takes byte .skip) :
      ∃ start stop, engine.Classifies library base tokens byte ⟨start, stop, .skip⟩ := by
    obtain ⟨front, ⟨start, stop, _⟩, back, split, starts, stops, rfl⟩ := here
    exact ⟨start, stop, classified split starts stops⟩
  refine ⟨fun without => skipped (Part.exists_skipped inside ordered without), ?_⟩
  intro lower action extent higher split contains without
  have lowerOrdered : Part.Ordered lower := fun entry member =>
    ordered entry (split ▸ List.mem_append_left _ member)
  constructor
  · intro earlier
    have ended : Part.EndBy byte lower := by
      intro entry member other matched
      have outside := without entry member other matched
      have begins := earlier entry member other matched
      simp only [Extent.Contains] at outside
      omega
    obtain ⟨front, back, parts⟩ : ∃ front back, Part.ofGroups 0 groups found.stop =
        front ++ ⟨max extent.start (Part.reach 0 lower), extent.stop, action⟩ :: back :=
      split ▸ Part.exists_owned ended contains
    exact classified parts (Nat.max_le.mpr ⟨contains.1, Part.reach_le (Nat.zero_le _) ended⟩)
      contains.2
  · intro later
    exact skipped (split ▸ Part.exists_passed_over lowerOrdered without later)

/-- Of the letters between the signs only the last one is in a group, which hands it on. -/
theorem tokenizeFrom_classifies_of_rounds :
    let delegate : Delegate := ⟨.this, none⟩
    let rounds : TableDef := ⟨"rounds", {}, [⟨"root", [
      .staying "(-)(a|b)+(;)" (.byGroups [.kind .operator, .delegate delegate, .kind .punctuation]),
      .staying "[a-z]" (.token .name)]⟩]⟩
    ∃ table, rounds.build [] = .ok table ∧
      let engine := Engine.start table "-ab;".toList "root" 0
      let tokens := (table.tokenizeFrom [] "-ab;".toList "root").drain.1
      engine.Classifies [] 0 tokens 2 ⟨2, 3, .delegate delegate⟩ ∧
      ∃ start stop, engine.Classifies [] 0 tokens 1 ⟨start, stop, .skip⟩ := by
  intro delegate rounds
  have checked : (rounds.build []).toOption.any fun table => table.hasState "root" &&
      (Engine.start table "-ab;".toList "root" 0).firing?.any fun firing =>
        firing.1.action = .byGroups [.kind .operator, .delegate delegate, .kind .punctuation] ∧
          firing.2 = ⟨4, [some ⟨0, 1⟩, some ⟨2, 3⟩, some ⟨3, 4⟩]⟩ := by
    decide +kernel
  obtain ⟨table, done, checked⟩ := exists_ok_of_any checked
  obtain ⟨known, checked⟩ := (Bool.and_eq_true _ _).mp checked
  obtain ⟨⟨rule, found⟩, fires, checked⟩ := (Option.any_eq_true _ _).mp checked
  obtain ⟨grouped, rfl⟩ := of_decide_eq_true checked
  have built := RuleTable.builtFrom_of_build done
  have classifies {byte : Nat} (inside : byte < 4) :=
    tokenizeFrom_classifies .nil built known .origin fires grouped inside
  refine ⟨table, done, ?_, (classifies (by decide)).1 ?_⟩
  · refine ((classifies (by decide)).2 [_] _ _ [_] rfl ⟨by decide, by decide⟩ ?_).1 ?_
    · simp [Regex.Extent.Contains]
    · simp
  · simp [Regex.Extent.Contains]

/-- The second round matches the first group, so the first round's letter is left as text, though
the second group matches it. -/
theorem exists_group_left_as_text :
    let letters : TableDef := ⟨"letters", {}, [⟨"root", [
      .staying "(?:(a)|(b))+" (.byGroups [.kind .keyword, .kind .name])]⟩]⟩
    ∃ table, letters.build [] = .ok table ∧
      ((Engine.start table "ba".toList "root" 0).firing?.any fun firing =>
        firing.1.action = .byGroups [.kind .keyword, .kind .name] ∧
          firing.2 = ⟨2, [some ⟨1, 2⟩, some ⟨0, 1⟩]⟩) ∧
      (table.tokenizeFrom [] "ba".toList "root").drain.1 =
        [⟨.text, 0, 1⟩, ⟨.keyword, 1, 2⟩] :=
  ⟨_, rfl, by decide +kernel⟩

end RuleLexer
