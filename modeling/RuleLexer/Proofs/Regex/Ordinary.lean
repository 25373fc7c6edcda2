import RuleLexer.Unicode.Name

/-!
# Ordinary characters in patterns

Backslashes, parentheses and opening brackets give a pattern its shape. All other characters are
ordinary. The classes of characters that a pattern may name all have ordinary names, so braces
around a name that is known hold nothing else.

## Main results

* `Unicode.ordinary_of_named?`, `Unicode.ordinary_of_valued?`: names that are known are ordinary.
-/
namespace RuleLexer

/-- The characters that give a pattern its shape. -/
def shaping : List Char := ['\\', '(', ')', '[']

/-- Whether a character has no part in the shape of a pattern. -/
def isOrdinary (char : Char) : Bool := !shaping.contains char

theorem isOrdinary_iff {char : Char} :
    isOrdinary char ↔ char ≠ '\\' ∧ char ≠ '(' ∧ char ≠ ')' ∧ char ≠ '[' := by
  simp [isOrdinary, shaping]

/-- A kind of characters is ordinary if none of the others is of the kind. -/
theorem isOrdinary_of {kind : Char → Bool} (none : shaping.all fun char => !kind char)
    {char : Char} (is : kind char) : isOrdinary char := by
  unfold isOrdinary
  rw [Bool.not_eq_true', Bool.eq_false_iff]
  intro member
  have isNot := List.all_eq_true.mp none char (List.contains_iff_mem.mp member)
  rw [is] at isNot
  cases isNot

theorem mem_of_not_isOrdinary {char : Char} (known : isOrdinary char = false) :
    char ∈ shaping := by
  rw [isOrdinary, Bool.not_eq_eq_eq_not] at known
  exact List.contains_iff_mem.mp known

/-- Only ordinary characters stand in a text before its end. -/
def Skims (text rest : List Char) : Prop := ∃ piece, piece ++ rest = text ∧ piece.all isOrdinary

namespace Skims

variable {text middle rest : List Char} {char : Char}

theorem refl (text : List Char) : Skims text text := ⟨[], rfl, rfl⟩

theorem trans (first : Skims text middle) (second : Skims middle rest) : Skims text rest := by
  obtain ⟨near, rfl, ordinary⟩ := first
  obtain ⟨far, rfl, more⟩ := second
  exact ⟨near ++ far, List.append_assoc .., by rw [List.all_append, ordinary, more]; rfl⟩

theorem cons (ordinary : isOrdinary char) (later : Skims text rest) :
    Skims (char :: text) rest := by
  obtain ⟨piece, rfl, more⟩ := later
  exact ⟨char :: piece, rfl, by rw [List.all_cons, ordinary, more]; rfl⟩

theorem dropWhile {kind : Char → Bool} (none : shaping.all fun char => !kind char)
    (text : List Char) : Skims text (text.dropWhile kind) := by
  refine ⟨text.takeWhile kind, List.takeWhile_append_dropWhile, List.all_eq_true.mpr ?_⟩
  exact fun char member =>
    isOrdinary_of none (List.all_eq_true.mp List.all_takeWhile char member)

end Skims

/-! ### Names of properties -/

namespace Unicode

/-- A character that is not ordinary is kept when names are compared. -/
theorem mem_looseName {char : Char} (known : isOrdinary char = false) {name : List Char}
    (member : char ∈ name) : char ∈ (looseName name).toList := by
  have outside : shaping.all fun char =>
      (char.toNat < 0x80 && char != ' ' && char != '_' && char != '-') ∧
        (if char.isUpper then char.toLower else char) = char ∧
        char ≠ 'i' ∧ char ≠ 's' ∧ char ≠ 'c' := by decide
  obtain ⟨kept, same, notFirst, notSecond, notLetter⟩ :=
    of_decide_eq_true (List.all_eq_true.mp outside char (mem_of_not_isOrdinary known))
  unfold looseName
  extract_lets lower keep
  have keeps {chars : List Char} (member : char ∈ chars) : char ∈ keep chars :=
    List.mem_map.mpr ⟨char, List.mem_filter.mpr ⟨member, kept⟩, same⟩
  split
  · next first second rest =>
    split
    · next lead =>
      -- The letters that are left off are not the character.
      have later : char ∈ rest := by
        rcases List.mem_cons.mp member with rfl | member
        · exact absurd (same.symm.trans lead.1) notFirst
        rcases List.mem_cons.mp member with rfl | member
        · exact absurd (same.symm.trans lead.2) notSecond
        exact member
      dsimp only
      split
      · next letter => exact absurd (List.mem_singleton.mp (letter ▸ keeps later)) notLetter
      · simpa using keeps later
    · simpa using keeps member
  · simpa using keeps member

/-- A name is ordinary if the form under which it is looked up is. -/
theorem ordinary_of_looseName {name : List Char}
    (ordinary : (looseName name).toList.all isOrdinary) : name.all isOrdinary := by
  rw [List.all_eq_true] at ordinary ⊢
  intro char member
  cases known : isOrdinary char with
  | true => rfl
  | false => exact known.symm.trans (ordinary char (mem_looseName known member))

/-- Whether a name has a byte in common with a character that gives a pattern its shape. The bytes of
a name are at hand, while its characters have to be read off them first. -/
def hasShapingByte (name : String) : Bool :=
  name.toByteArray.data.toList.any (shaping.flatMap String.utf8EncodeChar).contains

theorem ordinary_of_bytes {name : String} (free : hasShapingByte name = false) :
    name.toList.all isOrdinary := by
  have bytes : name.toByteArray.data.toList = name.toList.flatMap String.utf8EncodeChar := by
    rw [← String.utf8Encode_toList]
    exact List.toList_data_toByteArray
  rw [hasShapingByte, bytes, List.any_eq_false] at free
  rw [List.all_eq_true]
  intro char member
  cases known : isOrdinary char with
  | true => rfl
  | false =>
    -- The bytes of the character itself would be in common.
    have some : 0 < (String.utf8EncodeChar char).length := by
      rw [String.length_utf8EncodeChar]
      exact char.utf8Size_pos
    obtain ⟨byte, inside⟩ := List.exists_mem_of_length_pos some
    have common := List.mem_flatMap_of_mem (mem_of_not_isOrdinary known) inside
    have absent := free byte (List.mem_flatMap_of_mem member inside)
    exact absurd (List.contains_iff_mem.mpr common) absent

/-- Whether all names that a table lists are ordinary, as their bytes tell. -/
def ordinaryKeys (keys : List (List String)) : Bool :=
  keys.all fun names => names.all fun name => !hasShapingByte name

theorem ordinary_of_find? {α : Type} {table : List (List String × α)}
    (ordinary : ordinaryKeys (table.map Prod.fst)) {name : String} {entry : List String × α}
    (found : table.find? (fun entry => entry.1.contains name) = some entry) :
    name.toList.all isOrdinary := by
  have names := List.all_eq_true.mp ordinary entry.1
    (List.mem_map_of_mem (List.mem_of_find?_eq_some found))
  have carries := List.find?_some found
  have free := List.all_eq_true.mp names name (List.contains_iff_mem.mp carries)
  rw [Bool.not_eq_true'] at free
  exact ordinary_of_bytes free

theorem ordinary_of_lookUp {table : List (List String × CharSet)}
    (ordinary : ordinaryKeys (table.map Prod.fst)) {name : String} {set : CharSet}
    (found : lookUp name table = some set) : name.toList.all isOrdinary := by
  obtain ⟨entry, known, -⟩ := Option.map_eq_some_iff.mp found
  exact ordinary_of_find? ordinary known

theorem ordinary_properties : ordinaryKeys (Property.table.map Prod.fst) := by decide +kernel

theorem ordinary_categories : ordinaryKeys (Category.single.map Prod.fst) := by decide +kernel

theorem ordinary_categoryGroups : ordinaryKeys (Category.groups.map Prod.fst) := by decide +kernel

theorem ordinary_scripts : ordinaryKeys (Script.table.map Prod.fst) := by decide +kernel

theorem ordinary_extensions : ordinaryKeys (ScriptExtension.table.map Prod.fst) := by
  -- Both properties of scripts have the same values.
  have same : ScriptExtension.table.map Prod.fst = Script.table.map Prod.fst := by decide +kernel
  exact same ▸ ordinary_scripts

theorem ordinary_of_category {name : String} {set : CharSet}
    (found : Category.named? name = some set) : name.toList.all isOrdinary := by
  unfold Category.named? at found
  split at found
  · decide
  · decide
  · decide
  · split at found
    · next known => exact ordinary_of_lookUp ordinary_categories known
    · obtain ⟨entry, known, -⟩ := Option.map_eq_some_iff.mp found
      exact ordinary_of_find? ordinary_categoryGroups known

/-- A bare name that is known is ordinary. -/
theorem ordinary_of_named? {name : List Char} {set : CharSet} (found : named? name = some set) :
    name.all isOrdinary := by
  refine ordinary_of_looseName ?_
  simp only [named?, Option.orElse_eq_orElse, Option.orElse_eq_or, Option.or_eq_some_iff] at found
  rcases found with found | ⟨-, found | ⟨-, found⟩⟩
  · split at found
    · cases found
    · exact ordinary_of_lookUp ordinary_properties found
  · exact ordinary_of_category found
  · exact ordinary_of_lookUp ordinary_scripts found

/-- The names of a property and of its value are ordinary if they are known. -/
theorem ordinary_of_valued? {property value : List Char} {set : CharSet}
    (found : valued? property value = some set) :
    property.all isOrdinary ∧ value.all isOrdinary := by
  have known {key : String} (same : looseName property = key)
      (ordinary : key.toList.all isOrdinary) (valued : (looseName value).toList.all isOrdinary) :
      property.all isOrdinary ∧ value.all isOrdinary :=
    ⟨ordinary_of_looseName (same ▸ ordinary), ordinary_of_looseName valued⟩
  unfold valued? at found
  dsimp only at found
  split at found
  · next same => exact known same (by decide) (ordinary_of_category found)
  · next same => exact known same (by decide) (ordinary_of_category found)
  · next same => exact known same (by decide) (ordinary_of_category found)
  · next same => exact known same (by decide) (ordinary_of_lookUp ordinary_scripts found)
  · next same => exact known same (by decide) (ordinary_of_lookUp ordinary_scripts found)
  · next same => exact known same (by decide) (ordinary_of_lookUp ordinary_extensions found)
  · next same => exact known same (by decide) (ordinary_of_lookUp ordinary_extensions found)
  · cases found

end Unicode

end RuleLexer
