import RuleLexer.Document.Yaml
import RuleLexer.Proofs.Document.Elements

/-!
# Data in YAML

A node without tags and references stands for data by itself: a scalar for what its text means, the
collections for the data of their parts. Whatever is asked of the place of such a node in a document
is answered as this data says, although a question for a text or for a truth value looks at the text
of a scalar alone.

## Main results

* `Node.datum?`: the data that a node stands for by itself.
* `faithful`: places answer as the data of their nodes says.
-/
namespace RuleLexer.Yaml

mutual

/-- The data of a node that has neither tags nor references in it. -/
def Node.datum? : Node → Option Datum
  | .scalar none style text => scalarDatum? none style text
  | .sequence none items => (Node.datumItems? items).map .list
  | .mapping none pairs => (Node.datumPairs? pairs).map .map
  | _ => none

def Node.datumItems? : List Node → Option (List Datum)
  | [] => some []
  | item :: rest => do
    let item ← item.datum?
    let rest ← Node.datumItems? rest
    return item :: rest

def Node.datumPairs? : List (Node × Node) → Option (List (Datum × Datum))
  | [] => some []
  | (key, value) :: rest => do
    let key ← key.datum?
    let value ← value.datum?
    let rest ← Node.datumPairs? rest
    return (key, value) :: rest

end

theorem Node.datumItems?_eq_mapM (items : List Node) :
    datumItems? items = items.mapM Node.datum? := by
  induction items with
  | nil => rfl
  | cons item items ih => rw [datumItems?, ih, List.mapM_cons]

theorem Node.datumPairs?_eq_mapM (pairs : List (Node × Node)) :
    datumPairs? pairs = pairs.mapM fun (key, value) => do
      let key ← key.datum?
      let value ← value.datum?
      return (key, value) := by
  induction pairs with
  | nil => rfl
  | cons pair pairs ih => simp [datumPairs?, ih, Option.bind_assoc]

/-! ### Scalars -/

/-- A scalar without a tag stands for its text, or it is plain and stands for something else than a
collection; for a truth value if its text is one. -/
theorem scalarDatum?_cases {style : ScalarStyle} {text : List Char} {datum : Datum}
    (meant : scalarDatum? none style text = some datum) :
    datum = .string (String.ofList text) ∨ datum = .null ∨ datum = .number ∨
      (∃ value, datum = .natural value) ∨
      ∃ value, datum = .bool value ∧ style = .plain ∧ bool? text = some value := by
  have untagged : scalarDatum? none style text =
      if style = .plain then plainDatum? text else some (.string (String.ofList text)) := by
    simp [scalarDatum?, isLocalTag]
  rw [untagged] at meant
  split at meant
  next plain =>
    unfold plainDatum? at meant
    split at meant
    · cases meant
      exact .inr (.inl rfl)
    · split at meant
      next value known =>
        cases meant
        exact .inr (.inr (.inr (.inr ⟨value, rfl, plain, known⟩)))
      next =>
        split at meant
        next value _ =>
          cases meant
          exact .inr (.inr (.inr (.inl ⟨value, rfl⟩)))
        next =>
          cases meant
          exact .inr (.inr (.inl rfl))
        next => cases meant
        next =>
          split at meant
          · cases meant
            exact .inr (.inr (.inl rfl))
          · cases meant
            exact .inl rfl
  next =>
    cases meant
    exact .inl rfl

namespace Node

variable {node : Node}

/-! ### Nodes by their data -/

theorem datum?_eq_string {value : String} (shown : node.datum? = some (.string value)) :
    ∃ style text, node = .scalar none style text ∧ String.ofList text = value := by
  unfold datum? at shown
  split at shown
  next style text =>
    rcases scalarDatum?_cases shown with same | same | same | ⟨_, same⟩ | ⟨_, same, -⟩
    · exact ⟨style, text, rfl, (Datum.string.inj same).symm⟩
    all_goals cases same
  all_goals simp at shown

theorem datum?_eq_bool {value : Bool} (shown : node.datum? = some (.bool value)) :
    ∃ text, node = .scalar none .plain text ∧ bool? text = some value := by
  unfold datum? at shown
  split at shown
  next style text =>
    rcases scalarDatum?_cases shown with same | same | same | ⟨_, same⟩ | ⟨_, same, rfl, known⟩
    · cases same
    · cases same
    · cases same
    · cases same
    · cases same
      exact ⟨text, rfl, known⟩
  all_goals simp at shown

theorem datum?_eq_list {data : List Datum} (shown : node.datum? = some (.list data)) :
    ∃ items, node = .sequence none items ∧
      List.Forall₂ (fun item datum => item.datum? = some datum) items data := by
  unfold datum? at shown
  split at shown
  next style text =>
    rcases scalarDatum?_cases shown with same | same | same | ⟨_, same⟩ | ⟨_, same, -⟩
    all_goals cases same
  next items =>
    obtain ⟨found, read, ⟨⟩⟩ := Option.map_eq_some_iff.mp shown
    rw [datumItems?_eq_mapM] at read
    exact ⟨items, rfl, mapM_eq_some_iff.mp read⟩
  all_goals simp at shown

theorem datum?_eq_map {data : List (Datum × Datum)} (shown : node.datum? = some (.map data)) :
    ∃ pairs, node = .mapping none pairs ∧ List.Forall₂ (fun pair datum =>
      pair.1.datum? = some datum.1 ∧ pair.2.datum? = some datum.2) pairs data := by
  unfold datum? at shown
  split at shown
  next style text =>
    rcases scalarDatum?_cases shown with same | same | same | ⟨_, same⟩ | ⟨_, same, -⟩
    all_goals cases same
  · simp at shown
  next pairs =>
    obtain ⟨found, read, ⟨⟩⟩ := Option.map_eq_some_iff.mp shown
    rw [datumPairs?_eq_mapM] at read
    refine ⟨pairs, rfl, (mapM_eq_some_iff.mp read).imp ?_⟩
    rintro ⟨key, value⟩ ⟨keyDatum, valueDatum⟩ both
    obtain ⟨_, first, both⟩ := Option.bind_eq_some_iff.mp both
    obtain ⟨_, second, ⟨⟩⟩ := Option.bind_eq_some_iff.mp both
    exact ⟨first, second⟩
  next => cases shown

end Node

/-! ### Questions -/

/-- The data of a node can be asked for with room enough. -/
theorem Place.datum?_eq_some (anchored : List (Nat × Node)) {node : Node} {datum : Datum}
    {room : Nat} (shown : node.datum? = some datum) (fits : datum.Fits room) :
    Place.datum? anchored room node = some datum := by
  induction room using Nat.strongRecOn generalizing node datum with
  | ind room ih =>
    have whole := shown
    unfold Node.datum? at shown
    unfold Place.datum?
    split at shown
    next style text => exact shown
    next items =>
      obtain ⟨data, -, rfl⟩ := Option.map_eq_some_iff.mp shown
      obtain ⟨_, ⟨⟩, read⟩ := Node.datum?_eq_list whole
      cases room with
      | zero => exact fits.elim
      | succ room =>
        have inner : items.mapM (Place.datum? anchored room) = some data := by
          refine mapM_eq_some_iff.mpr (List.forall₂_iff_zip.mpr ⟨read.length_eq, ?_⟩)
          intro item datum member
          exact ih room (Nat.lt_succ_self room) (List.forall₂_zip read member)
            (fits datum (List.of_mem_zip member).2)
        simp [follow?, isLocalTag, inner]
    next pairs =>
      obtain ⟨data, -, rfl⟩ := Option.map_eq_some_iff.mp shown
      obtain ⟨_, ⟨⟩, read⟩ := Node.datum?_eq_map whole
      cases room with
      | zero => exact fits.elim
      | succ room =>
        have inner : (pairs.mapM fun (key, value) => do
            let key ← Place.datum? anchored room key
            let value ← Place.datum? anchored room value
            return (key, value)) = some data := by
          refine mapM_eq_some_iff.mpr (List.forall₂_iff_zip.mpr ⟨read.length_eq, ?_⟩)
          rintro ⟨key, value⟩ ⟨_, datum⟩ member
          obtain ⟨first, second⟩ := List.forall₂_zip read member
          obtain ⟨⟨name, ⟨⟩⟩, parts⟩ := fits _ (List.of_mem_zip member).2
          have named : (Datum.string name).Fits room := by simp [Datum.Fits]
          simp [ih room (Nat.lt_succ_self room) first named,
            ih room (Nat.lt_succ_self room) second parts]
        simpa [follow?, isLocalTag] using inner
    next => cases shown

theorem Place.members?_eq_some {place : Place} {members : List (String × Datum)}
    (shown : place.node.datum? = some (.ofMembers members)) :
    ∃ parts, place.members? = some parts ∧ List.Forall₂ (fun part member =>
      part.1 = member.1 ∧ part.2.node.datum? = some member.2) parts members := by
  obtain ⟨anchored, _⟩ := place
  obtain ⟨pairs, rfl, alike⟩ := Node.datum?_eq_map shown
  rw [List.forall₂_map_right_iff] at alike
  refine exists_mapM_of_forall₂ (alike.imp ?_)
  rintro ⟨key, value⟩ ⟨name, datum⟩ ⟨named, shown⟩
  obtain ⟨style, text, rfl, rfl⟩ := Node.datum?_eq_string named
  exact ⟨_, rfl, rfl, shown⟩

/-- Places answer as the data of their nodes says. -/
theorem faithful :
    Element.Faithful fun (place : Place) datum => place.node.datum? = some datum where
  levels := by decide
  text := by
    rintro ⟨anchored, _⟩ value shown
    obtain ⟨style, text, rfl, rfl⟩ := Node.datum?_eq_string shown
    rfl
  flag := by
    rintro ⟨anchored, _⟩ value shown
    obtain ⟨text, rfl, known⟩ := Node.datum?_eq_bool shown
    exact known
  items := by
    rintro ⟨anchored, _⟩ data shown
    obtain ⟨items, rfl, parts⟩ := Node.datum?_eq_list shown
    exact ⟨_, rfl, List.forall₂_map_left_iff.mpr parts⟩
  members := by
    rintro place members shown
    obtain ⟨parts, given, alike⟩ := Place.members?_eq_some shown
    refine ⟨parts, given, fun names => ?_, alike⟩
    change (Place.members? place).bind _ = _
    rw [given]
    rfl
  datum := fun shown fits => Place.datum?_eq_some _ shown fits

end RuleLexer.Yaml
