import Mathlib.Algebra.Group.Nat.Defs
import Mathlib.Data.List.Forall2
import RuleLexer.Document.Datum

/-!
# Fields of written records

A record is written with the names of its fields as keys, none of them twice. Asked for a field, it
gives what was written under the name, whichever other fields are asked for besides, and nothing if
the field was left out.

## Main results

* `Datum.fields?_ofMembers`: the values of fields are those under their names.
* `Datum.Fits`: data that can be written and takes at most a number of levels.
-/
namespace RuleLexer

/-- Items that are read one by one are what the reader makes of each. -/
theorem mapM_eq_some_iff {α β : Type} {read : α → Option β} {items : List α} {results : List β} :
    items.mapM read = some results ↔
      List.Forall₂ (fun item result => read item = some result) items results := by
  induction items generalizing results with
  | nil =>
    rw [List.forall₂_nil_left_iff]
    exact ⟨fun given => (Option.some.inj given).symm, fun given => by rw [given]; rfl⟩
  | cons item items ih =>
    rw [List.mapM_cons, List.forall₂_cons_left_iff]
    constructor
    · intro given
      obtain ⟨value, first, given⟩ := Option.bind_eq_some_iff.mp given
      obtain ⟨values, further, given⟩ := Option.bind_eq_some_iff.mp given
      exact ⟨value, values, first, ih.mp further, (Option.some.inj given).symm⟩
    · rintro ⟨value, values, first, further, rfl⟩
      simp [first, ih.mpr further]

/-- If every item is read, all of them are. -/
theorem mapM_eq_some_map {α β : Type} {read : α → Option β} {result : α → β} {items : List α}
    (each : ∀ item ∈ items, read item = some (result item)) :
    items.mapM read = some (items.map result) :=
  mapM_eq_some_iff.mpr (List.forall₂_map_right_iff.mpr (List.forall₂_same.mpr each))

theorem mapM_eq_some_self {α : Type} {read : α → Option α} {items : List α}
    (each : ∀ item ∈ items, read item = some item) : items.mapM read = some items :=
  mapM_eq_some_iff.mpr (List.forall₂_same.mpr each)

/-- Items that are read as something suitable are read together. -/
theorem exists_mapM_of_forall₂ {α β γ : Type} {read : α → Option β} {suits : β → γ → Prop}
    {items : List α} {others : List γ}
    (each : List.Forall₂ (fun item other => ∃ result, read item = some result ∧ suits result other)
      items others) :
    ∃ results, items.mapM read = some results ∧ List.Forall₂ suits results others := by
  induction each with
  | nil => exact ⟨[], rfl, .nil⟩
  | cons first _ ih =>
    obtain ⟨result, read, suits⟩ := first
    obtain ⟨results, further, all⟩ := ih
    exact ⟨result :: results, by simp [List.mapM_cons, read, further], .cons suits all⟩

namespace Datum

variable {α : Type} {members : List (String × α)} {name : String}

theorem filter_eq_nil_of_notMem {tag : String → Option String}
    (known : ∀ key, tag key = some name ↔ key = name) (absent : name ∉ members.map Prod.fst) :
    ((members.map fun (key, value) => (tag key, value)).filter fun (key, _) => key = some name) =
      [] := by
  rw [List.filter_eq_nil_iff]
  rintro ⟨key, value⟩ member same
  obtain ⟨⟨source, value⟩, within, ⟨⟩⟩ := List.mem_map.mp member
  rw [decide_eq_true_eq, known] at same
  exact absent (List.mem_map.mpr ⟨_, within, same⟩)

/-- The only value under a name that stands there once at most is the one that is found first. -/
theorem onlyValue?_eq_lookup (tag : String → Option String)
    (known : ∀ key, tag key = some name ↔ key = name) (distinct : (members.map Prod.fst).Nodup) :
    onlyValue? (members.map fun (key, value) => (tag key, value)) name =
      some (members.lookup name) := by
  induction members with
  | nil => rfl
  | cons member members ih =>
    obtain ⟨key, value⟩ := member
    obtain ⟨absent, further⟩ := List.nodup_cons.mp distinct
    by_cases here : key = name
    · obtain rfl := here
      have others := filter_eq_nil_of_notMem known absent
      have tagged : tag key = some key := (known key).mpr rfl
      rw [onlyValue?, List.map_cons, List.filter_cons_of_pos (by simpa using tagged), others,
        List.lookup_cons_self]
    · have untagged : tag key ≠ some name := fun same => here ((known key).mp same)
      have elsewhere : (name == key) = false := beq_false_of_ne (Ne.symm here)
      have rest := ih further
      rw [onlyValue?] at rest
      rw [onlyValue?, List.map_cons, List.filter_cons_of_neg (by simpa using untagged), rest,
        List.lookup_cons, elsewhere]

/-- A key of a written record is read as its name if it is among the names that are asked for. -/
theorem mapM_fieldName? (members : List (String × Datum)) (names : List String) :
    (members.map fun (key, value) => (Datum.string key, value)).mapM
        (fun (key, value) => (key.fieldName? names).map fun name => (name, value)) =
      some (members.map fun (key, value) => (if key ∈ names then some key else none, value)) := by
  rw [List.mapM_map]
  exact mapM_eq_some_map fun _ _ => rfl

/-- The values of fields are those that were written under their names. -/
theorem fields?_ofMembers {members : List (String × Datum)} (names : List String)
    (distinct : (members.map Prod.fst).Nodup) :
    (Datum.ofMembers members).fields? names =
      some (names.map fun name => members.lookup name) := by
  rw [ofMembers, fields?, mapM_fieldName?, Option.bind_eq_bind, Option.bind_some]
  refine mapM_eq_some_map fun name asked => ?_
  refine onlyValue?_eq_lookup (fun key => if key ∈ names then some key else none) ?_ distinct
  intro key
  by_cases known : key ∈ names
  · simp [known]
  · have other : key ≠ name := fun same => known (same ▸ asked)
    simp [known, other]

/-- The data takes at most a number of levels of collections, its keys are texts, and its numbers
are natural numbers of 64 bits. -/
def Fits : Nat → Datum → Prop
  | _, .null | _, .bool _ | _, .string _ => True
  | _, .natural value => value < 2 ^ 64
  | _, .number => False
  | room + 1, .list items => ∀ item ∈ items, item.Fits room
  | room + 1, .map pairs => ∀ pair ∈ pairs, (∃ key, pair.1 = .string key) ∧ pair.2.Fits room
  | 0, .list _ | 0, .map _ => False

theorem fits_ofMembers {members : List (String × Datum)} {room : Nat}
    (each : ∀ member ∈ members, member.2.Fits room) : (ofMembers members).Fits (room + 1) := by
  rintro pair member
  obtain ⟨⟨key, value⟩, within, rfl⟩ := List.mem_map.mp member
  exact ⟨⟨key, rfl⟩, each _ within⟩

theorem fits_ofStrings (values : List String) (room : Nat) :
    (ofStrings values).Fits (room + 1) := by
  rintro item member
  obtain ⟨value, -, rfl⟩ := List.mem_map.mp member
  simp [Fits]

end Datum

end RuleLexer
