import RuleLexer.Proofs.Regex.Framing
import RuleLexer.Proofs.Regex.Ordinary

/-!
# What readers skim

What belongs to an escape after its first character, to the bounds of a repetition or to the flags
of a group is ordinary. This is about text in which blanks and comments count: a comment may hold
anything.

## Main results

* `Skims.of_readEscape`: what belongs to an escape is ordinary after the first character.
* `Skims.of_readBounds`, `Skims.of_readFlags`: so are the bounds of a repetition and the flags of a
  group.
-/
namespace RuleLexer

open Regex

variable {flags : Flags} {text rest : List Char}

/-! ### Escapes -/

theorem eq_of_cutAt? {separator text front back : List Char}
    (cut : cutAt? separator text = some (front, back)) : text = front ++ separator ++ back := by
  induction text generalizing front with
  | nil => cases cut
  | cons char text ih =>
    rw [cutAt?] at cut
    split at cut
    · next here =>
      cases cut
      obtain ⟨back, same⟩ := List.isPrefixOf_iff_prefix.mp here
      rw [← same, List.drop_left]
      rfl
    · obtain ⟨⟨near, far⟩, later, same⟩ := Option.map_eq_some_iff.mp cut
      cases same
      rw [ih later]
      rfl

theorem exists_set_of_property {set : Option CharSet} {negated : Bool} {expr : Expr}
    (known : flags.atom (.property set negated) = .ok expr) : ∃ chars, set = some chars := by
  cases set with
  | none =>
    simp only [Flags.atom, Flags.property] at known
    split at known <;> cases known
  | some chars => exact ⟨chars, rfl⟩

/-- A property that can be matched has an ordinary name. -/
theorem ordinary_of_propertyAtom {negated : Bool} {name : List Char} {expr : Expr}
    (known : flags.atom (propertyAtom negated name) = .ok expr) : name.all isOrdinary := by
  -- The name of a property with a value is cut in two at a sign between them.
  have valued {property value separator : List Char} {set : CharSet}
      (ordinary : separator.all isOrdinary) (same : name = property ++ separator ++ value)
      (found : Unicode.valued? property value = some set) : name.all isOrdinary := by
    obtain ⟨first, second⟩ := Unicode.ordinary_of_valued? found
    rw [same, List.all_append, List.all_append, first, ordinary, second]
    rfl
  unfold propertyAtom at known
  split at known
  · next cut =>
    obtain ⟨set, found⟩ := exists_set_of_property known
    exact valued (by decide) (eq_of_cutAt? cut) found
  · split at known
    · next cut =>
      obtain ⟨set, found⟩ := exists_set_of_property known
      simp only [Option.orElse_eq_orElse, Option.orElse_eq_or, Option.or_eq_some_iff] at cut
      rcases cut with cut | ⟨-, cut⟩
      · exact valued (by decide) (eq_of_cutAt? cut) found
      · exact valued (by decide) (eq_of_cutAt? cut) found
    · obtain ⟨set, found⟩ := exists_set_of_property known
      exact Unicode.ordinary_of_named? found

theorem isOrdinary_of_digitValue? {char : Char} (digit : (Number.digitValue? char).isSome) :
    isOrdinary char :=
  @isOrdinary_of (fun char => (Number.digitValue? char).isSome) (by decide) char digit

theorem ordinary_of_foldlM {base start value : Nat} {digits : List Char}
    (known : digits.foldlM (fun value digit =>
      (Number.digitIn? base digit).map (value * base + ·)) start = some value) :
    digits.all isOrdinary := by
  induction digits generalizing start with
  | nil => rfl
  | cons digit digits ih =>
    rw [List.foldlM_cons] at known
    obtain ⟨later, step, known⟩ := Option.bind_eq_some_iff.mp known
    obtain ⟨number, digitIn, -⟩ := Option.map_eq_some_iff.mp step
    have isDigit : (Number.digitValue? digit).isSome :=
      Option.isSome_of_mem (Option.filter_eq_some_iff.mp digitIn).1
    rw [List.all_cons, isOrdinary_of_digitValue? isDigit, ih known]
    rfl

theorem ordinary_of_ofDigits? {base value : Nat} {digits : List Char}
    (known : Number.ofDigits? base digits = some value) : digits.all isOrdinary := by
  unfold Number.ofDigits? at known
  split at known
  · cases known
  · exact ordinary_of_foldlM known

/-- The letters of flags are ordinary, and so is the hyphen. -/
theorem isOrdinary_of_add {letters later : FlagLetters} {char : Char} {next : Option Char}
    (added : letters.add char next = .ok later) : isOrdinary char := by
  unfold FlagLetters.add at added
  split at added
  · cases added
  split at added
  · next hyphen => exact hyphen ▸ rfl
  · split at added
    · next flags known =>
      unfold Flags.set? at known
      split at known
      all_goals first | rfl | cases known
    · cases added

namespace Skims

variable {char : Char}

theorem of_readHexDigits (plain : flags.ignoreBlanks = false) {value count number : Nat}
    (read : readHexDigits flags value count text = .ok (number, rest)) : Skims text rest := by
  induction count generalizing value text with
  | zero =>
    cases read
    exact .refl _
  | succ count ih =>
    cases text with
    | nil => cases read
    | cons char text =>
      rw [readHexDigits, Flags.skip_eq plain] at read
      split at read
      · next digit known => exact .cons (isOrdinary_of_digitValue? (known ▸ rfl)) (ih read)
      · cases read

/-- What stands in braces is all that is taken, together with the closing brace. -/
theorem of_readBraced (plain : flags.ignoreBlanks = false) {fuel : Nat} {chars : List Char}
    (read : readBraced flags fuel text = .ok (chars, rest)) (ordinary : chars.all isOrdinary) :
    Skims text rest := by
  induction fuel generalizing text chars with
  | zero => cases read
  | succ fuel ih =>
    rw [readBraced, Flags.skip_eq plain] at read
    split at read
    · cases read
    · cases read
      exact .cons rfl (.refl _)
    · obtain ⟨⟨front, back⟩, inner, same⟩ := bind_eq_ok_iff.mp read
      cases same
      obtain ⟨first, more⟩ := Bool.and_eq_true_iff.mp ordinary
      exact .cons first (ih inner more)

theorem of_readHex (plain : flags.ignoreBlanks = false) {letter : Char} {atom : Atom}
    (read : readHex flags letter text = .ok (atom, rest)) : Skims text rest := by
  simp only [readHex, Flags.skip_eq plain] at read
  split at read
  · cases read
  · obtain ⟨⟨digits, back⟩, braced, read⟩ := bind_eq_ok_iff.mp read
    dsimp only at read
    split at read
    · next value known =>
      obtain ⟨char, -, same⟩ := bind_eq_ok_iff.mp read
      cases same
      exact .cons rfl (of_readBraced plain braced (ordinary_of_ofDigits? known))
    · cases read
  · obtain ⟨⟨value, back⟩, digits, read⟩ := bind_eq_ok_iff.mp read
    obtain ⟨char, -, same⟩ := bind_eq_ok_iff.mp read
    cases same
    exact of_readHexDigits plain digits

theorem of_readProperty (plain : flags.ignoreBlanks = false) {negated : Bool} {atom : Atom}
    {expr : Expr} (read : readProperty flags negated text = .ok (atom, rest))
    (known : flags.atom atom = .ok expr) : Skims text rest := by
  simp only [readProperty, Flags.skip_eq plain] at read
  split at read
  · cases read
  · obtain ⟨⟨name, back⟩, braced, same⟩ := bind_eq_ok_iff.mp read
    cases same
    exact .cons rfl (of_readBraced plain braced (ordinary_of_propertyAtom known))
  · cases read
  · cases read
    obtain ⟨set, found⟩ := exists_set_of_property known
    exact .cons (by simpa using Unicode.ordinary_of_named? found) (.refl _)

theorem of_readRun (plain : flags.ignoreBlanks = false) {kind : Char → Bool}
    (none : shaping.all fun char => !kind char) {fuel : Nat} {run : List Char}
    (read : readRun flags kind fuel text = (run, rest)) : Skims text rest := by
  induction fuel generalizing text run with
  | zero =>
    cases read
    exact .refl _
  | succ fuel ih =>
    cases text with
    | nil =>
      cases read
      exact .refl _
    | cons char text =>
      rw [readRun, Flags.skip_eq plain] at read
      split at read
      · next part =>
        cases read
        exact .cons (isOrdinary_of none part) (ih rfl)
      · cases read
        exact .refl _

theorem of_readBoundary (plain : flags.ignoreBlanks = false) {atom : Atom}
    (read : readBoundary flags text = .ok (atom, rest)) : Skims text rest := by
  unfold readBoundary at read
  split at read
  · rw [Flags.skip_eq plain] at read
    split at read
    · cases read
    · split at read
      · split at read
        · next named =>
          split at read
          · cases read
            exact .cons rfl ((of_readRun plain (by decide) named).trans (.cons rfl (.refl _)))
          · cases read
        · cases read
      · cases read
        exact .refl _
  · cases read
    exact .refl _

/-- After its first character an escape is ordinary. -/
theorem of_readEscape (plain : flags.ignoreBlanks = false) {atom : Atom} {expr : Expr}
    (read : readEscape flags text = .ok (atom, rest)) (known : flags.atom atom = .ok expr) :
    ∃ char after, text = char :: after ∧ Skims after rest := by
  unfold readEscape at read
  split at read
  · next char after =>
    refine ⟨char, after, rfl, ?_⟩
    split at read
    · exact of_readHex plain read
    · split at read
      · exact of_readProperty plain read known
      · split at read
        · exact of_readBoundary plain read
        · split at read
          · cases read
            exact .refl _
          · cases read
  · cases read

/-! ### Bounds of repetitions and flags -/

theorem of_readCount (plain : flags.ignoreBlanks = false) {count : Option Nat}
    (read : readCount flags text = .ok (count, rest)) : Skims text rest := by
  have blanks : shaping.all fun char => !isBlank char := by decide +kernel
  obtain ⟨digits, -, same⟩ := bind_eq_ok_iff.mp read
  cases same
  exact (dropWhile blanks text).trans
    ((of_readRun plain (by decide) rfl).trans (dropWhile blanks _))

theorem of_readUpperBound (plain : flags.ignoreBlanks = false) {least : Option Nat}
    {bounds : Nat × Option Nat}
    (read : readUpperBound flags least text = .ok (bounds, rest)) : Skims text rest := by
  simp only [readUpperBound, Flags.skip_eq plain] at read
  split at read
  · cases read
  · split at read
    · cases read
      exact .cons rfl (.refl _)
    · cases read
  · split at read
    · obtain ⟨⟨most, back⟩, counted, read⟩ := bind_eq_ok_iff.mp read
      split at read
      · next same =>
        cases same
        split at read
        · cases read
        · cases read
          exact (of_readCount plain counted).trans (.cons rfl (.refl _))
      · cases read
    · cases read

theorem of_readBounds (plain : flags.ignoreBlanks = false) {bounds : Nat × Option Nat}
    (read : readBounds flags text = .ok (bounds, rest)) : Skims text rest := by
  simp only [readBounds, Flags.skip_eq plain] at read
  split at read
  · cases read
  obtain ⟨⟨least, back⟩, counted, read⟩ := bind_eq_ok_iff.mp read
  have first := of_readCount plain counted
  dsimp only at read
  split at read
  · exact first.trans (.cons rfl (of_readUpperBound plain read))
  · split at read
    · cases read
      exact first.trans (.cons rfl (.refl _))
    · cases read
  · cases read

/-- The flags of a group end with a colon or a closing parenthesis. -/
theorem of_readFlags {letters final : FlagLetters}
    (read : readFlags letters text = .ok (final, rest)) :
    Skims text rest ∧ ∃ char after, rest = char :: after ∧ (char = ':' ∨ char = ')') := by
  induction text generalizing letters with
  | nil => cases read
  | cons char text ih =>
    rw [readFlags] at read
    split at read
    · next ends =>
      cases read
      exact ⟨.refl _, char, text, rfl, ends⟩
    · obtain ⟨letters', added, read⟩ := bind_eq_ok_iff.mp read
      obtain ⟨later, ends⟩ := ih read
      exact ⟨.cons (isOrdinary_of_add added) later, ends⟩

/-- A name is what stands before the angle bracket that closes it. -/
theorem eq_of_readName {name : List Char} (read : readName text = .ok (name, rest)) :
    text = name ++ '>' :: rest := by
  unfold readName at read
  dsimp only at read
  split at read
  · next after ended =>
    split at read
    · cases read
    · split at read
      · cases read
        rw [← ended]
        exact (List.prefix_iff_eq_append.mp (List.takeWhile_prefix _)).symm
      · cases read
  · cases read

theorem lazyMark (text : List Char) : Skims text (Regex.lazyMark text).2 := by
  unfold Regex.lazyMark
  split
  · exact .cons rfl (.refl _)
  · exact .refl _

end Skims

end RuleLexer
