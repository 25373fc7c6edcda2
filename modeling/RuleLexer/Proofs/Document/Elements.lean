import Mathlib.Data.String.Basic
import RuleLexer.Document.Table
import RuleLexer.Proofs.Document.Entries

/-!
# Tables that are read back

What a reader of tables asks a format for is the same for every format, so it is enough that the
format answers as the data says. `Element.Faithful` says this of the questions that are asked where
the structure of a document is known, and of the question for all of the data, which is asked for
entries and for the limits of a run.

## Main result

`TableDocument.ofElement?_eq_some`: an element that stands for the data of a table is read as this
table.
-/
namespace RuleLexer

/-- Elements that stand for data answer every question as the data says. -/
structure Element.Faithful {ν : Type} [Element ν] (Shows : ν → Datum → Prop) : Prop where
  /-- A document of a table has five levels of collections. -/
  levels : 5 ≤ Element.levels ν
  text {element : ν} {value : String} : Shows element (.string value) →
    Element.text? element = some value
  flag {element : ν} {value : Bool} : Shows element (.bool value) →
    Element.flag? element = some value
  items {element : ν} {data : List Datum} : Shows element (.list data) →
    ∃ parts, Element.items? element = some parts ∧ List.Forall₂ Shows parts data
  members {element : ν} {members : List (String × Datum)} : Shows element (.ofMembers members) →
    ∃ parts : List (String × ν), Element.members? element = some parts ∧
      (∀ names, Element.fields? names element = names.mapM
        (Datum.onlyValue? (parts.map fun (key, value) => (some key, value)))) ∧
      List.Forall₂ (fun part member => part.1 = member.1 ∧ Shows part.2 member.2) parts members
  datum {element : ν} {datum : Datum} {room : Nat} : Shows element datum → datum.Fits room →
    Element.datum? room element = some datum

/-- The parts of a record stand under the names that it was written with, in their order. -/
theorem exists_part_of_forall₂ {ν : Type} {Shows : ν → Datum → Prop} {parts : List (String × ν)}
    {name : String} {datum : Datum} {members : List (String × Datum)}
    (alike : List.Forall₂ (fun part member => part.1 = member.1 ∧ Shows part.2 member.2) parts
      ((name, datum) :: members)) :
    ∃ element rest, parts = (name, element) :: rest ∧ Shows element datum ∧
      List.Forall₂ (fun part member => part.1 = member.1 ∧ Shows part.2 member.2) rest members := by
  obtain ⟨⟨_, element⟩, rest, ⟨⟨⟩, shown⟩, further, rfl⟩ := List.forall₂_cons_right_iff.mp alike
  exact ⟨element, rest, rfl, shown, further⟩

namespace TableDocument

variable {ν : Type} [Element ν] {Shows : ν → Datum → Prop}

/-- What every table that can be described is like: the states are in the order of their names,
which are all different, and the limits are numbers of 64 bits. -/
structure IsProper (document : TableDocument) : Prop where
  ordered : document.states.Pairwise fun state later => state.1 < later.1
  stackDepth : document.options.run.maxStackDepth < 2 ^ 64
  delegateDepth : document.options.run.maxDelegateDepth < 2 ^ 64

/-! ### States -/

theorem insertState_last {name : String} {entries : List EntryDocument}
    {states : List (String × List EntryDocument)} (later : ∀ state ∈ states, state.1 < name) :
    insertState name entries states = states ++ [(name, entries)] := by
  induction states with
  | nil => rfl
  | cons state states ih =>
    obtain ⟨other, old⟩ := state
    obtain ⟨first, further⟩ := List.forall_mem_cons.mp later
    have different : name ≠ other := (ne_of_lt first).symm
    have beyond : ¬name < other := lt_asymm first
    rw [insertState, if_neg different, if_neg beyond, ih further, List.cons_append]

/-- States that are in order stay in order when they are put into their places one by one. -/
theorem foldl_insertState {states done : List (String × List EntryDocument)}
    (ordered : (done ++ states).Pairwise fun state later => state.1 < later.1) :
    states.foldl (fun states (name, entries) => insertState name entries states) done =
      done ++ states := by
  induction states generalizing done with
  | nil => simp
  | cons state states ih =>
    obtain ⟨name, entries⟩ := state
    have later : ∀ earlier ∈ done, earlier.1 < name := fun earlier member =>
      (List.pairwise_append.mp ordered).2.2 earlier member _ List.mem_cons_self
    rw [List.append_cons] at ordered
    have rest := ih ordered
    simp only [List.foldl_cons, insertState_last later, rest, List.append_assoc,
      List.singleton_append]

theorem entries?_eq_some (faithful : Element.Faithful Shows) {element : ν}
    {entries : List EntryDocument}
    (shown : Shows element (.list (entries.map EntryDocument.toDatum))) :
    entries? element = some entries := by
  obtain ⟨parts, items, alike⟩ := faithful.items shown
  obtain ⟨room, deep⟩ : ∃ room, Element.levels ν - 3 = room + 2 :=
    ⟨Element.levels ν - 5, by have := faithful.levels; omega⟩
  have each : parts.mapM (fun item =>
      (Element.datum? (Element.levels ν - 3) item).bind EntryDocument.ofDatum?) = some entries := by
    rw [List.forall₂_map_right_iff] at alike
    refine mapM_eq_some_iff.mpr (alike.imp fun part entry shown => ?_)
    rw [deep, faithful.datum shown (entry.fits_toDatum room), Option.bind_some,
      EntryDocument.ofDatum?_toDatum]
  rw [entries?, items]
  exact each

theorem states?_eq_some (faithful : Element.Faithful Shows) {element : ν} {document : TableDocument}
    (ordered : document.states.Pairwise fun state later => state.1 < later.1)
    (shown : Shows element (.ofMembers (document.states.map fun (name, entries) =>
      (name, .list (entries.map EntryDocument.toDatum))))) :
    states? element = some document.states := by
  obtain ⟨parts, members, -, alike⟩ := faithful.members shown
  have each : parts.mapM (fun (name, value) =>
      (entries? value).map fun entries => (name, entries)) = some document.states := by
    rw [List.forall₂_map_right_iff] at alike
    refine mapM_eq_some_iff.mpr (alike.imp ?_)
    rintro ⟨name, value⟩ ⟨_, entries⟩ ⟨⟨⟩, shown⟩
    simp only [entries?_eq_some faithful shown, Option.map_some]
  have placed := foldl_insertState (List.nil_append document.states ▸ ordered)
  rw [states?, members]
  simp only [Option.bind_eq_bind, Option.bind_some, each, placed]
  rfl

/-! ### Options -/

theorem options?_eq_some (faithful : Element.Faithful Shows) {element : ν} {options : TableOptions}
    (stackDepth : options.run.maxStackDepth < 2 ^ 64)
    (delegateDepth : options.run.maxDelegateDepth < 2 ^ 64)
    (shown : Shows element (optionsDatum options)) : options? element = some options := by
  obtain ⟨parts, members, -, alike⟩ := faithful.members shown
  obtain ⟨insensitive, _, rfl, isInsensitive, alike⟩ := exists_part_of_forall₂ alike
  obtain ⟨dots, _, rfl, isDots, alike⟩ := exists_part_of_forall₂ alike
  obtain ⟨lines, _, rfl, isLines, alike⟩ := exists_part_of_forall₂ alike
  obtain ⟨resets, _, rfl, isResets, alike⟩ := exists_part_of_forall₂ alike
  obtain ⟨stack, _, rfl, isStack, alike⟩ := exists_part_of_forall₂ alike
  obtain ⟨delegates, _, rfl, isDelegates, alike⟩ := exists_part_of_forall₂ alike
  obtain rfl := List.forall₂_nil_right_iff.mp alike
  have switch (value : Bool) (room : Nat) : (Datum.bool value).Fits room := by simp [Datum.Fits]
  have limit (value room : Nat) (small : value < 2 ^ 64) : (Datum.natural value).Fits room := by
    simpa [Datum.Fits] using small
  rw [options?, members]
  simp [switchNames, faithful.datum isResets (switch _ _),
    faithful.datum isStack (limit _ _ stackDepth),
    faithful.datum isDelegates (limit _ _ delegateDepth), patternOptions?, runOptions?, switch?,
    runOption?, Datum.onlyValue?, faithful.flag isInsensitive, faithful.flag isDots,
    faithful.flag isLines, Datum.bool?, Datum.natural?]

/-- An element that stands for the data of a table is read as this table. -/
theorem ofElement?_eq_some (faithful : Element.Faithful Shows) {element : ν}
    {document : TableDocument} (proper : document.IsProper)
    (shown : Shows element document.toDatum) : ofElement? element = some document := by
  obtain ⟨parts, -, fields, alike⟩ := faithful.members shown
  obtain ⟨name, _, rfl, isName, alike⟩ := exists_part_of_forall₂ alike
  obtain ⟨options, _, rfl, isOptions, alike⟩ := exists_part_of_forall₂ alike
  obtain ⟨states, _, rfl, isStates, alike⟩ := exists_part_of_forall₂ alike
  obtain rfl := List.forall₂_nil_right_iff.mp alike
  simp [ofElement?, fields, Datum.onlyValue?, faithful.text isName,
    options?_eq_some faithful proper.stackDepth proper.delegateDepth isOptions,
    states?_eq_some faithful proper.ordered isStates]

/-- The data of a table has at most five levels of collections. -/
theorem fits_toDatum {document : TableDocument} (proper : document.IsProper) :
    document.toDatum.Fits 5 := by
  apply Datum.fits_ofMembers
  simp only [List.forall_mem_cons]
  refine ⟨by simp [Datum.Fits], ?_, ?_, by simp⟩
  · apply Datum.fits_ofMembers
    simpa [Datum.Fits] using And.intro proper.stackDepth proper.delegateDepth
  · apply Datum.fits_ofMembers
    rw [List.forall_mem_map]
    rintro ⟨name, entries⟩ - datum member
    obtain ⟨entry, -, rfl⟩ := List.mem_map.mp member
    exact entry.fits_toDatum 0

end TableDocument

end RuleLexer
