import RuleLexer.Proofs.Document.Elements
import RuleLexer.Proofs.Json.Reading

/-!
# Data in JSON

Data is written as a value that shows all of it: the value can be written as a text, and it answers
every question that is asked of a document as the data says.

## Main results

* `isWritable_ofDatum`: what data is written as can be read back.
* `faithful`: values answer as the data says that they are written for.
-/
namespace RuleLexer

namespace Json

theorem ofDatumItems_eq_map (items : List Datum) :
    ofDatumItems items = items.map Value.ofDatum := by
  induction items with
  | nil => rfl
  | cons item items ih => rw [ofDatumItems, ih, List.map_cons]

theorem ofDatumPairs_eq_map (pairs : List (Datum × Datum)) :
    ofDatumPairs pairs = pairs.map fun (key, value) => (keyText key, Value.ofDatum value) := by
  induction pairs with
  | nil => rfl
  | cons pair pairs ih => rw [ofDatumPairs, ih, List.map_cons]

theorem datumItems?_eq_mapM (room : Nat) (items : List Value) :
    datumItems? room items = items.mapM (Value.datum? room) := by
  induction items with
  | nil => rfl
  | cons item items ih => rw [datumItems?, ih, List.mapM_cons]

theorem datumPairs?_eq_mapM (room : Nat) (members : List (Text × Value)) :
    datumPairs? room members = members.mapM fun (key, value) => do
      let key ← key.string?
      let value ← value.datum? room
      return (.string key, value) := by
  induction members with
  | nil => rfl
  | cons member members ih =>
    simp [datumPairs?, ih, Option.bind_assoc]

theorem Text.string?_valid (text : String) : (Text.valid text.toList).string? = some text := by
  simp [Text.string?]

/-- Data that can be written is found again in the value that it is written as. -/
theorem datum?_ofDatum {datum : Datum} {room : Nat} (fits : datum.Fits room) :
    (Value.ofDatum datum).datum? room = some datum := by
  induction room using Nat.strongRecOn generalizing datum with
  | ind room ih =>
    cases datum with
    | null | bool value | natural value => rfl
    | number => simp [Datum.Fits] at fits
    | string value => rw [Value.ofDatum, Value.ofString, Value.datum?, Text.string?_valid]; rfl
    | list items =>
      cases room with
      | zero => exact fits.elim
      | succ room =>
        rw [Value.ofDatum, Value.datum?, ofDatumItems_eq_map, if_neg (Nat.succ_ne_zero room),
          Nat.add_sub_cancel, datumItems?_eq_mapM, List.mapM_map, mapM_eq_some_self]
        · rfl
        · exact fun item member => ih room (Nat.lt_succ_self room) (fits item member)
    | map pairs =>
      cases room with
      | zero => exact fits.elim
      | succ room =>
        rw [Value.ofDatum, Value.datum?, ofDatumPairs_eq_map, if_neg (Nat.succ_ne_zero room),
          Nat.add_sub_cancel, datumPairs?_eq_mapM, List.mapM_map, mapM_eq_some_self]
        · rfl
        · rintro ⟨key, value⟩ member
          obtain ⟨⟨text, ⟨⟩⟩, inner⟩ := fits _ member
          have read := ih room (Nat.lt_succ_self room) inner
          simp [keyText, Text.string?_valid, read]

theorem isWritable_ofDatum {datum : Datum} {room : Nat} (fits : datum.Fits room) :
    (Value.ofDatum datum).IsWritable := by
  induction room using Nat.strongRecOn generalizing datum with
  | ind room ih =>
    cases datum with
    | null => exact .null
    | bool value => exact .bool value
    | natural value =>
      have small : value < 2 ^ 64 := by simpa [Datum.Fits] using fits
      exact .natural (Nat.le_pred_of_lt small)
    | number => simp [Datum.Fits] at fits
    | string value => exact .string value.toList
    | list items =>
      cases room with
      | zero => exact fits.elim
      | succ room =>
        rw [Value.ofDatum, ofDatumItems_eq_map]
        refine .array (List.forall_mem_map.mpr fun item member => ?_)
        exact ih room (Nat.lt_succ_self room) (fits item member)
    | map pairs =>
      cases room with
      | zero => exact fits.elim
      | succ room =>
        rw [Value.ofDatum, ofDatumPairs_eq_map]
        refine .object (List.forall_mem_map.mpr fun pair member => ?_)
          (List.forall_mem_map.mpr fun pair member => ?_)
        · obtain ⟨_, value⟩ := pair
          obtain ⟨⟨key, ⟨⟩⟩, -⟩ := fits _ member
          exact ⟨key.toList, rfl⟩
        · exact ih room (Nat.lt_succ_self room) (fits pair member).2

/-! ### Questions -/

theorem ofDatum_ofMembers (members : List (String × Datum)) :
    Value.ofDatum (.ofMembers members) =
      .ofMembers (members.map fun (key, datum) => (key, Value.ofDatum datum)) := by
  rw [Datum.ofMembers, Value.ofDatum, ofDatumPairs_eq_map, Value.ofMembers, List.map_map,
    List.map_map]
  rfl

theorem memberOnce?_ofMembers (members : List (String × Value)) (name : String) :
    memberOnce? (members.map fun (key, value) => (Text.valid key.toList, value)) name =
      Datum.onlyValue? (members.map fun (key, value) => (some key, value)) name := by
  have keys (key : String) :
      (Text.valid key.toList = .valid name.toList) = (some key = some name) := by
    simp [String.toList_inj]
  simp only [memberOnce?, Datum.onlyValue?, List.filter_map, Function.comp_def, keys]
  rcases members.filter _ with _ | ⟨first, _ | ⟨second, others⟩⟩ <;> rfl

theorem fields?_ofMembers (members : List (String × Value)) (names : List String) :
    (Value.ofMembers members).fields? names false = names.mapM
      (Datum.onlyValue? (members.map fun (key, value) => (some key, value))) := by
  have usable : ¬((members.map fun (key, value) => (Text.valid key.toList, value)).any
      fun (key, _) =>
        key = .broken || (false && key ∉ names.map fun name => Text.valid name.toList)) := by
    simp
  rw [Value.ofMembers, Value.fields?, if_neg usable]
  congr 1
  funext name
  exact memberOnce?_ofMembers members name

theorem members?_ofMembers (members : List (String × Value)) :
    Element.members? (Value.ofMembers members) = some members := by
  change List.mapM _ _ = _
  rw [List.mapM_map]
  refine mapM_eq_some_self fun member _ => ?_
  simp [Text.string?_valid]

/-- Values answer as the data says that they are written for. -/
theorem faithful : Element.Faithful fun value datum => value = Value.ofDatum datum where
  levels := by decide
  text := by
    rintro _ value rfl
    exact Text.string?_valid value
  flag := by
    rintro _ value rfl
    rfl
  items := by
    rintro _ data rfl
    refine ⟨data.map Value.ofDatum, by rw [Value.ofDatum, ofDatumItems_eq_map]; rfl, ?_⟩
    exact List.forall₂_map_left_iff.mpr (List.forall₂_same.mpr fun _ _ => rfl)
  members := by
    rintro _ members rfl
    rw [ofDatum_ofMembers]
    refine ⟨_, members?_ofMembers _, fields?_ofMembers _, ?_⟩
    exact List.forall₂_map_left_iff.mpr (List.forall₂_same.mpr fun _ _ => ⟨rfl, rfl⟩)
  datum := by
    rintro _ datum room rfl fits
    exact datum?_ofDatum fits

end Json

end RuleLexer
