import RuleLexer.Document.Entry
import RuleLexer.Proofs.Document.Fields

/-!
# Entries that are read back

The forms of an entry are told apart by the fields that are there, and each form has a field that no
form before it has and that is always written. So the forms before the right one do not fit what was
written for an entry. In the right one a field that was left out is read as what it was left out
for.

## Main results

* `EntryDocument.ofDatum?_toDatum`: an entry is read from the data that it is written as.
* `EntryDocument.fits_toDatum`: an entry has at most two levels of collections.
-/
namespace RuleLexer

theorem Datum.listOf?_string (values : List String) :
    (Datum.ofStrings values).listOf? Datum.string? = some values := by
  rw [Datum.ofStrings, Datum.listOf?, List.mapM_map]
  exact mapM_eq_some_self fun _ _ => rfl

namespace NextDocument

theorem ofDatum?_toDatum (next : NextDocument) : ofDatum? next.toDatum = some next := by
  cases next with
  | one target => rfl
  | many states =>
    change ((Datum.ofStrings states).listOf? Datum.string?).map many = _
    rw [Datum.listOf?_string]
    rfl

theorem toDatum_ne_null (next : NextDocument) : next.toDatum ≠ .null := by
  cases next <;> exact fun same => nomatch same

theorem fits_toDatum (next : NextDocument) (room : Nat) : next.toDatum.Fits (room + 1) := by
  cases next with
  | one target => simp [toDatum, Datum.Fits]
  | many states => exact Datum.fits_ofStrings states room

end NextDocument

namespace EntryDocument

/-! ### Fields that may be left out -/

section Optional

variable {α : Type} {write : α → Datum} {read : Datum → Option α}

theorem lookup_member? (name key : String) (value : Option α) :
    (member? name write value).lookup key = if key = name then value.map write else none := by
  cases value with
  | none => simp [member?]
  | some value =>
    by_cases same : key = name
    · simp [member?, same]
    · simp [member?, same]

theorem lookup_textMember? (name key value : String) :
    (textMember? name value).lookup key =
      if key = name ∧ value ≠ "" then some (.string value) else none := by
  by_cases empty : value = ""
  · simp [textMember?, empty]
  · by_cases same : key = name
    · simp [textMember?, empty, same]
    · simp [textMember?, empty, same]

theorem orNone_map (back : ∀ value, read (write value) = some value)
    (proper : ∀ value, write value ≠ .null) (value : Option α) :
    orNone read (value.map write) = some value := by
  cases value with
  | none => rfl
  | some value =>
    have given : Datum.optional? read (write value) = (read (write value)).map some := by
      unfold Datum.optional?
      split
      next same => exact absurd same (proper value)
      next => rfl
    rw [Option.map_some, orNone, Option.elim_some, given, back]
    rfl

theorem orDefault_text (value : String) :
    orDefault (if value = "" then none else some (.string value)) = some value := by
  by_cases empty : value = ""
  · simp [orDefault, empty]
  · simp [orDefault, empty, Datum.string?]

end Optional

theorem groups_back (groups : List (Option String)) :
    Datum.listOf? (Datum.optional? Datum.string?) (.list (groups.map groupDatum)) =
      some groups := by
  rw [Datum.listOf?, List.mapM_map]
  refine mapM_eq_some_self ?_
  rintro (_ | kind) -
  · rfl
  · rfl

/-! ### Forms -/

/-- The fields that are written for an entry. -/
def members : EntryDocument → List (String × Datum)
  | includeState state => [("include", .string state)]
  | .words list lead tail token next =>
    [("words", .ofStrings list)] ++ textMember? "prefix" lead ++ textMember? "suffix" tail ++
      [("token", .string token)] ++ member? "next" NextDocument.toDatum next
  | .pattern source token groups start next =>
    [("pattern", .string source)] ++ member? "token" Datum.string token ++
      member? "groups" (fun groups => .list (groups.map groupDatum)) groups ++
      member? "using" Datum.string start ++ member? "next" NextDocument.toDatum next
  | always next => [("default", next.toDatum)]

theorem toDatum_eq_ofMembers (entry : EntryDocument) :
    entry.toDatum = .ofMembers entry.members := by
  cases entry <;> rfl

theorem map_fst_textMember? (name value : String) :
    ((textMember? name value).map Prod.fst).Sublist [name] := by
  unfold textMember?
  split <;> simp

theorem map_fst_member? {α : Type} (name : String) (write : α → Datum) (value : Option α) :
    ((member? name write value).map Prod.fst).Sublist [name] := by
  cases value <;> simp [member?]

theorem nodup_members (entry : EntryDocument) : (entry.members.map Prod.fst).Nodup := by
  cases entry with
  | includeState state => simp [members]
  | words list lead tail token next =>
    -- What is written is a part of the list of all fields of the form, which differ.
    have within := (((((List.Sublist.refl ["words"]).append
      (map_fst_textMember? "prefix" lead)).append
      (map_fst_textMember? "suffix" tail)).append (List.Sublist.refl ["token"])).append
      (map_fst_member? "next" NextDocument.toDatum next))
    simp only [members, List.map_append]
    exact within.nodup (by decide)
  | pattern source token groups start next =>
    have within := (((((List.Sublist.refl ["pattern"]).append
      (map_fst_member? "token" Datum.string token)).append
      (map_fst_member? "groups" (fun groups => .list (groups.map groupDatum)) groups)).append
      (map_fst_member? "using" Datum.string start)).append
      (map_fst_member? "next" NextDocument.toDatum next))
    simp only [members, List.map_append]
    exact within.nodup (by decide)
  | always next => simp [members]

theorem fields?_toDatum (entry : EntryDocument) (names : List String) :
    entry.toDatum.fields? names = some (names.map fun name => entry.members.lookup name) := by
  rw [toDatum_eq_ofMembers]
  exact Datum.fields?_ofMembers names entry.nodup_members

/-! A form does not fit without the field that is always written for it. -/

theorem includeOfDatum?_eq_none {entry : EntryDocument}
    (absent : entry.members.lookup "include" = none) : includeOfDatum? entry.toDatum = none := by
  simp [includeOfDatum?, fields?_toDatum, absent]

theorem wordsOfDatum?_eq_none {entry : EntryDocument}
    (absent : entry.members.lookup "words" = none) : wordsOfDatum? entry.toDatum = none := by
  simp [wordsOfDatum?, fields?_toDatum, absent]

theorem patternOfDatum?_eq_none {entry : EntryDocument}
    (absent : entry.members.lookup "pattern" = none) : patternOfDatum? entry.toDatum = none := by
  simp [patternOfDatum?, fields?_toDatum, absent]

theorem wordsOfDatum?_toDatum (list : List String) (lead tail token : String)
    (next : Option NextDocument) :
    wordsOfDatum? (EntryDocument.words list lead tail token next).toDatum =
      some (.words list lead tail token next) := by
  have following := orNone_map NextDocument.ofDatum?_toDatum NextDocument.toDatum_ne_null next
  simp [wordsOfDatum?, fields?_toDatum, members, List.lookup_append, lookup_member?,
    lookup_textMember?, List.lookup_cons, Datum.listOf?_string, Datum.string?, orDefault_text,
    following]

theorem patternOfDatum?_toDatum (source : String) (token : Option String)
    (groups : Option (List (Option String))) (start : Option String) (next : Option NextDocument) :
    patternOfDatum? (EntryDocument.pattern source token groups start next).toDatum =
      some (.pattern source token groups start next) := by
  have text (value : Option String) : orNone Datum.string? (value.map Datum.string) = some value :=
    orNone_map (fun value => (rfl : Datum.string? (Datum.string value) = some value))
      (fun _ same => nomatch same) value
  have parts := orNone_map groups_back (fun _ same => nomatch same) groups
  have following := orNone_map NextDocument.ofDatum?_toDatum NextDocument.toDatum_ne_null next
  simp [patternOfDatum?, fields?_toDatum, members, List.lookup_append, lookup_member?,
    List.lookup_cons, Datum.string?, text, parts, following]

theorem ofDatum?_toDatum (entry : EntryDocument) : ofDatum? entry.toDatum = some entry := by
  cases entry with
  | includeState state =>
    simp [ofDatum?, includeOfDatum?, fields?_toDatum, members, Datum.string?]
  | words list lead tail token next =>
    -- The forms are tried in order, so those before this one have to be ruled out.
    rw [ofDatum?, includeOfDatum?_eq_none, wordsOfDatum?_toDatum]
    · rfl
    · simp [members, List.lookup_append, lookup_member?, lookup_textMember?, List.lookup_cons]
  | pattern source token groups start next =>
    rw [ofDatum?, includeOfDatum?_eq_none, wordsOfDatum?_eq_none, patternOfDatum?_toDatum]
    · rfl
    · simp [members, List.lookup_append, lookup_member?, List.lookup_cons]
    · simp [members, List.lookup_append, lookup_member?, List.lookup_cons]
  | always next =>
    rw [ofDatum?, includeOfDatum?_eq_none rfl, wordsOfDatum?_eq_none rfl,
      patternOfDatum?_eq_none rfl]
    simp [alwaysOfDatum?, fields?_toDatum, members, NextDocument.ofDatum?_toDatum]

/-! ### Levels -/

theorem forall_mem_member? {α : Type} {name : String} {write : α → Datum} {value : Option α}
    {room : Nat} (each : ∀ value, (write value).Fits room) :
    ∀ member ∈ member? name write value, member.2.Fits room := by
  cases value with
  | none => simp [member?]
  | some value => simpa [member?] using each value

theorem forall_mem_textMember? {name value : String} {room : Nat} :
    ∀ member ∈ textMember? name value, member.2.Fits room := by
  unfold textMember?
  split <;> simp [Datum.Fits]

/-- An entry has at most two levels of collections. -/
theorem fits_toDatum (entry : EntryDocument) (room : Nat) : entry.toDatum.Fits (room + 2) := by
  rw [toDatum_eq_ofMembers]
  apply Datum.fits_ofMembers
  cases entry with
  | includeState state => simp [members, Datum.Fits]
  | words list lead tail token next =>
    have following := fun next => NextDocument.fits_toDatum next room
    simp only [members, List.forall_mem_append, List.forall_mem_singleton]
    exact ⟨⟨⟨⟨Datum.fits_ofStrings list room, forall_mem_textMember?⟩, forall_mem_textMember?⟩,
      trivial⟩, forall_mem_member? following⟩
  | pattern source token groups start next =>
    have text : ∀ value, (Datum.string value).Fits (room + 1) := fun _ => trivial
    have parts : ∀ groups : List (Option String),
        (Datum.list (groups.map groupDatum)).Fits (room + 1) := by
      rintro groups datum member
      obtain ⟨group, -, rfl⟩ := List.mem_map.mp member
      cases group <;> simp [groupDatum, Datum.Fits]
    have following := fun next => NextDocument.fits_toDatum next room
    simp only [members, List.forall_mem_append, List.forall_mem_singleton]
    exact ⟨⟨⟨⟨text source, forall_mem_member? text⟩, forall_mem_member? parts⟩,
      forall_mem_member? text⟩, forall_mem_member? following⟩
  | always next => simpa [members] using NextDocument.fits_toDatum next room

end EntryDocument

end RuleLexer
