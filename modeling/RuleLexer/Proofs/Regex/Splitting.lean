import RuleLexer.Proofs.Regex.Lookbehind
import RuleLexer.Proofs.Regex.Skimming

/-!
# Where look-behinds end

The parenthesis that closes a look-behind is searched for without reading the assertion: backslashes
take the meaning from what follows them, parentheses are counted, and those in brackets are not. All
that belongs to an escape, to the bounds of a repetition or to the flags of a group is passed over,
and so are groups. Sets in brackets and the names of groups may be mistaken, for they may hold
brackets that open or close nothing; where they are passed over one by one, so is the assertion.

## Main results

* `LookbehindSource.Neutral.set`: a set is passed over if its only closing bracket is the last one.
* `LookbehindSource.passes_of_turn`, `LookbehindSource.passes_of_reads`: a turn and a whole group
  are passed over.
* `Pattern.compile_text`: a pattern with a look-behind is split where its assertion ends, and can be
  read if both parts can and there is room for what is put around the assertion.
* `Pattern.exists_set_mistaken`: a set that begins with a closing bracket is mistaken.
-/
namespace RuleLexer

open Regex

namespace LookbehindSource

/-- Wherever a piece of text stands outside of brackets, the search for the closing parenthesis goes
on after it as if it were not there. -/
def Neutral (piece : List Char) : Prop :=
  ∀ depth rest, closing? depth false (piece ++ rest) =
    (closing? depth false rest).map fun (front, back) => (piece ++ front, back)

theorem closing?_cons {char : Char} (plain : char ≠ '\\') (depth : Nat) (inBrackets : Bool)
    (rest : List Char) :
    closing? depth inBrackets (char :: rest) =
      if char = ')' ∧ !inBrackets ∧ depth = 0 then some ([], rest)
      else (closing?
        (if inBrackets then depth else if char = '(' then depth + 1
          else if char = ')' then depth - 1 else depth)
        (if char = '[' then true else if char = ']' then false else inBrackets) rest).map
        fun (front, back) => (char :: front, back) := by
  rw [closing?]
  · exact fun same => absurd same plain
  · exact fun _ _ same => absurd same plain

/-- A character that escapes nothing is no backslash. -/
theorem ne_backslash {char : Char} {rest : List Char} (last : char = '\\' → rest = [] → False)
    (escaped : ∀ next more, char = '\\' → rest = next :: more → False) : char ≠ '\\' := by
  rintro rfl
  cases rest with
  | nil => exact last rfl rfl
  | cons next more => exact escaped next more rfl rfl

namespace Neutral

variable {piece near far : List Char} {char : Char}

theorem nil : Neutral [] := by
  intro depth rest
  simp

theorem append (first : Neutral near) (second : Neutral far) : Neutral (near ++ far) := by
  intro depth rest
  rw [List.append_assoc, first, second, Option.map_map]
  simp [Function.comp_def]

theorem escaped (char : Char) : Neutral ['\\', char] := fun _ _ => rfl

theorem ordinary (known : isOrdinary char) : Neutral [char] := by
  intro depth rest
  have ⟨_, _, _, _⟩ := isOrdinary_iff.mp known
  simp [closing?_cons, *]

theorem of_all (known : piece.all isOrdinary) : Neutral piece := by
  induction piece with
  | nil => exact nil
  | cons char piece ih =>
    obtain ⟨first, more⟩ := Bool.and_eq_true_iff.mp known
    exact (ordinary first).append (ih more)

/-- A piece in parentheses takes the search one level down and up again. -/
theorem group (inner : Neutral piece) : Neutral ('(' :: (piece ++ [')'])) := by
  intro depth rest
  simp [closing?_cons, inner (depth + 1), Function.comp_def]

/-- Whether no closing bracket stands in a text, but after a backslash. -/
def isFlat : List Char → Bool
  | [] => true
  | '\\' :: [] => false
  | '\\' :: _ :: rest => isFlat rest
  | char :: rest => char ≠ ']' && isFlat rest

theorem closing?_of_isFlat {body : List Char} (flat : isFlat body) (depth : Nat)
    (rest : List Char) : closing? depth true (body ++ ']' :: rest) =
      (closing? depth false rest).map fun (front, back) => (body ++ ']' :: front, back) := by
  fun_induction isFlat body with
  | case1 => simp [closing?_cons]
  | case2 => cases flat
  | case3 char rest ih => simp [closing?, ih flat, Function.comp_def]
  | case4 char body last escaped ih =>
    obtain ⟨within, flat⟩ := Bool.and_eq_true_iff.mp flat
    have within : char ≠ ']' := of_decide_eq_true within
    rw [List.cons_append, closing?_cons (ne_backslash last escaped)]
    simp [within, ih flat, Function.comp_def]

/-- A set in brackets is passed over, whatever parentheses it holds, if its only closing bracket is
the last one. -/
theorem set {body : List Char} (flat : isFlat body) : Neutral ('[' :: (body ++ [']'])) := by
  intro depth rest
  simp [closing?_cons, closing?_of_isFlat flat, Function.comp_def]

end Neutral

/-- What is passed over on its own is passed over at any depth. -/
theorem closing?_of_alone {depth : Nat} {inBrackets : Bool} {piece : List Char}
    (alone : closing? depth inBrackets (piece ++ [')']) = some (piece, [])) (outer : Nat)
    (rest : List Char) :
    closing? (depth + outer) inBrackets (piece ++ rest) =
      (closing? outer false rest).map fun (front, back) => (piece ++ front, back) := by
  fun_induction closing? depth inBrackets piece with
  | case1 depth inBrackets =>
    -- Nothing but the parenthesis is left, so it is the one that is looked for.
    have found : inBrackets = false ∧ depth = 0 := by
      simpa [closing?] using alone
    obtain ⟨rfl, rfl⟩ := found
    simp
  | case2 => cases alone
  | case3 depth inBrackets char piece ih =>
    have further : closing? depth inBrackets (piece ++ [')']) = some (piece, []) := by
      simpa [closing?, Prod.ext_iff] using alone
    simp [closing?, ih further, Function.comp_def]
  | case4 depth inBrackets char piece last escaped closes =>
    -- The search would stop at the first character, before the end of the piece.
    have plain : char ≠ '\\' := fun same => nomatch same.symm.trans closes.1
    rw [List.cons_append, closing?_cons plain, if_pos closes] at alone
    cases alone
  | case5 depth inBrackets char piece last escaped goesOn later within ih =>
    have plain := ne_backslash last escaped
    rw [List.cons_append, closing?_cons plain, if_neg goesOn] at alone
    obtain ⟨⟨front, back⟩, further, same⟩ := Option.map_eq_some_iff.mp alone
    cases same
    have outerGoesOn : ¬(char = ')' ∧ !inBrackets ∧ depth + outer = 0) := fun closes =>
      goesOn ⟨closes.1, closes.2.1, Nat.eq_zero_of_add_eq_zero_right closes.2.2⟩
    -- A parenthesis that closes something here does so at every outer depth as well.
    have level : (if inBrackets then depth + outer else if char = '(' then depth + outer + 1
        else if char = ')' then depth + outer - 1 else depth + outer) = later + outer := by
      grind
    rw [List.cons_append, closing?_cons plain, if_neg outerGoesOn, level, ih further]
    simp [Function.comp_def]

theorem neutral_iff {piece : List Char} :
    Neutral piece ↔ closing? 0 false (piece ++ [')']) = some (piece, []) := by
  constructor
  · intro neutral
    rw [neutral]
    simp [closing?_cons]
  · intro alone depth rest
    simpa using closing?_of_alone alone depth rest

instance (piece : List Char) : Decidable (Neutral piece) := decidable_of_iff _ neutral_iff.symm

example : ¬Neutral "[])]".toList := by decide

/-- The text begins with a piece that is passed over, up to the rest. -/
def Passes (text rest : List Char) : Prop := ∃ piece, piece ++ rest = text ∧ Neutral piece

namespace Passes

variable {text middle rest : List Char} {char : Char}

theorem refl (text : List Char) : Passes text text := ⟨[], rfl, .nil⟩

theorem trans (first : Passes text middle) (second : Passes middle rest) : Passes text rest := by
  obtain ⟨near, rfl, neutral⟩ := first
  obtain ⟨far, rfl, more⟩ := second
  exact ⟨near ++ far, List.append_assoc .., neutral.append more⟩

theorem of_skims (skims : Skims text rest) : Passes text rest := by
  obtain ⟨piece, same, ordinary⟩ := skims
  exact ⟨piece, same, .of_all ordinary⟩

theorem escaped (char : Char) (later : Passes text rest) :
    Passes ('\\' :: char :: text) rest := by
  obtain ⟨piece, rfl, neutral⟩ := later
  exact ⟨'\\' :: char :: piece, rfl, (Neutral.escaped char).append neutral⟩

/-- A group is passed over if its contents are. -/
theorem group (inner : Passes text (')' :: rest)) : Passes ('(' :: text) rest := by
  obtain ⟨piece, rfl, neutral⟩ := inner
  exact ⟨'(' :: (piece ++ [')']), by simp, neutral.group⟩

end Passes

/-- A turn that the search for the closing parenthesis does not mistake: blanks and comments count,
and sets in brackets and the names of groups, which may hold brackets of their own, are passed over.
-/
def Unmistaken (reading : Reading) (turn : Turn) : Prop :=
  reading.reader.flags.ignoreBlanks = false ∧
    match turn with
    | .close _ => True
    | .next later =>
      reading.reader.rest.head? = some '[' → Passes reading.reader.rest later.reader.rest
    | .group _ inner => ∀ name ∈ inner.names, Neutral name

section Turns

variable {reader inner : Reader} {text : List Char}

theorem passes_of_openNamed {start : GroupStart}
    (opened : reader.openNamed text = .ok (start, inner)) :
    start ≠ .flags ∧ ((∀ name ∈ inner.names, Neutral name) → Passes text inner.rest) := by
  obtain ⟨⟨name, back⟩, named, opened⟩ := bind_eq_ok_iff.mp opened
  dsimp only at opened
  split at opened
  · cases opened
  · cases opened
    refine ⟨nofun, fun names => ?_⟩
    rw [Skims.eq_of_readName named]
    exact ⟨name ++ ['>'], by simp,
      (names name (List.mem_cons_self ..)).append (.ordinary (by decide))⟩

theorem passes_of_openFlags {start : GroupStart}
    (opened : reader.openFlags text = .ok (start, inner)) :
    start = .plain ∧ Passes text inner.rest ∨ start = .flags ∧ Passes text (')' :: inner.rest) := by
  obtain ⟨⟨letters, back⟩, read, opened⟩ := bind_eq_ok_iff.mp opened
  obtain ⟨skims, char, after, rfl, ends⟩ := Skims.of_readFlags read
  dsimp only at opened
  split at opened
  · next same =>
    cases opened
    cases same
    exact .inl ⟨rfl, (Passes.of_skims skims).trans (.of_skims (.cons (by decide) (.refl _)))⟩
  · next notColon same =>
    split at opened
    · cases opened
    · cases opened
      cases same
      obtain rfl := ends.resolve_left notColon
      exact .inr ⟨rfl, .of_skims skims⟩
  · next same => cases same

theorem passes_of_openGroup {start : GroupStart} (plain : reader.flags.ignoreBlanks = false)
    (opened : reader.openGroup text = .ok (start, inner)) :
    start = .flags ∧ Passes text (')' :: inner.rest) ∨
      start ≠ .flags ∧ ((∀ name ∈ inner.names, Neutral name) → Passes text inner.rest) := by
  have prefixed (front : List Char) (ordinary : front.all isOrdinary) {after rest : List Char}
      (later : Passes after rest) : Passes (front ++ after) rest :=
    Passes.trans ⟨front, rfl, .of_all ordinary⟩ later
  simp only [Reader.openGroup, Flags.skip_eq plain] at opened
  split at opened
  -- There are no assertions about what comes after or before.
  · cases opened
  · cases opened
  · cases opened
  · cases opened
  -- A name may hold brackets, flags may not.
  · obtain ⟨captures, passes⟩ := passes_of_openNamed opened
    exact .inr ⟨captures, fun names => prefixed ['?', 'P', '<'] (by decide) (passes names)⟩
  · obtain ⟨captures, passes⟩ := passes_of_openNamed opened
    exact .inr ⟨captures, fun names => prefixed ['?', '<'] (by decide) (passes names)⟩
  · rcases passes_of_openFlags opened with ⟨rfl, passes⟩ | ⟨rfl, passes⟩
    · exact .inr ⟨by simp, fun _ => prefixed ['?'] (by decide) passes⟩
    · exact .inl ⟨rfl, prefixed ['?'] (by decide) passes⟩
  · cases opened
    exact .inr ⟨by simp, fun _ => .refl _⟩

theorem skims_of_operator {reading : Reading} {least : Nat} {most : Option Nat} {turn : Turn}
    (turned : reading.operator least most text = .ok turn) :
    ∃ later, turn = .next later ∧ Skims text later.reader.rest := by
  obtain ⟨pieces, -, same⟩ := bind_eq_ok_iff.mp turned
  cases same
  exact ⟨_, rfl, .lazyMark text⟩

theorem passes_of_opened {reading : Reading} {turn : Turn}
    (plain : reading.reader.flags.ignoreBlanks = false)
    (turned : reading.opened text = .ok turn) :
    (∃ later, turn = .next later ∧ Passes text (')' :: later.reader.rest)) ∨
      ∃ index inner, turn = .group index inner ∧
        ((∀ name ∈ inner.names, Neutral name) → Passes text inner.rest) := by
  obtain ⟨⟨start, inner⟩, opened, turned⟩ := bind_eq_ok_iff.mp turned
  rcases passes_of_openGroup plain opened with ⟨rfl, passes⟩ | ⟨opens, passes⟩
  · cases turned
    exact .inl ⟨_, rfl, passes⟩
  · cases start with
    | flags => exact absurd rfl opens
    | capture index =>
      cases turned
      exact .inr ⟨_, _, rfl, passes⟩
    | plain =>
      cases turned
      exact .inr ⟨_, _, rfl, passes⟩

/-- A turn passes over its text, but for the parenthesis that begins a group. -/
theorem passes_of_turn {reading : Reading} {turn : Turn} (turned : reading.turn = .ok turn)
    (fits : Unmistaken reading turn) :
    turn = .close reading.reader ∨
      (∃ later, turn = .next later ∧ Passes reading.reader.rest later.reader.rest) ∨
      ∃ index inner after, turn = .group index inner ∧ reading.reader.rest = '(' :: after ∧
        Passes after inner.rest := by
  obtain ⟨plain, passed⟩ := fits
  rw [Reading.turn, Flags.skip_eq plain] at turned
  split at turned
  · next drained =>
    cases turned
    exact .inl (congrArg (fun rest => Turn.close (reading.reader.facing rest)) drained.symm)
  · next closed =>
    cases turned
    exact .inl (congrArg (fun rest => Turn.close (reading.reader.facing rest)) closed.symm)
  next char after within begins =>
  rw [begins]
  have operator {char : Char} (ordinary : isOrdinary char) {least : Nat} {most : Option Nat}
      {rest : List Char} (skims : Skims after rest)
      (turned : reading.operator least most rest = .ok turn) :
      ∃ later, turn = .next later ∧ Passes (char :: after) later.reader.rest := by
    obtain ⟨later, rfl, further⟩ := skims_of_operator turned
    exact ⟨later, rfl, .of_skims (.cons ordinary (skims.trans further))⟩
  unfold Reading.begun at turned
  dsimp only at turned
  split at turned
  · cases turned
    exact .inr (.inl ⟨_, rfl, .of_skims (.cons rfl (.refl _))⟩)
  · rcases passes_of_opened plain turned with ⟨later, rfl, passes⟩ | ⟨index, inner, rfl, passes⟩
    · exact .inr (.inl ⟨_, rfl, passes.group⟩)
    · exact .inr (.inr ⟨_, _, _, rfl, rfl, passes passed⟩)
  · obtain ⟨⟨⟨negated, items⟩, body⟩, -, turned⟩ := bind_eq_ok_iff.mp turned
    obtain ⟨⟨set, back⟩, -, same⟩ := bind_eq_ok_iff.mp turned
    cases same
    -- Nothing is known about what a set holds, so it must not be mistaken.
    rw [begins] at passed
    exact .inr (.inl ⟨_, rfl, passed rfl⟩)
  · exact .inr (.inl (operator rfl (.refl _) turned))
  · exact .inr (.inl (operator rfl (.refl _) turned))
  · exact .inr (.inl (operator rfl (.refl _) turned))
  · split at turned
    · cases turned
    obtain ⟨⟨⟨least, most⟩, back⟩, bounds, turned⟩ := bind_eq_ok_iff.mp turned
    dsimp only at turned
    rw [Flags.skip_eq plain] at turned
    exact .inr (.inl (operator rfl (.of_readBounds plain bounds) turned))
  · obtain ⟨⟨atom, back⟩, read, turned⟩ := bind_eq_ok_iff.mp turned
    obtain ⟨expr, known, same⟩ := bind_eq_ok_iff.mp turned
    cases same
    obtain ⟨char, more, rfl, skims⟩ := Skims.of_readEscape plain read known
    exact .inr (.inl ⟨_, rfl, .escaped char (.of_skims skims)⟩)
  · next notGroup notSet _ _ _ _ notEscape =>
    obtain ⟨expr, -, same⟩ := bind_eq_ok_iff.mp turned
    cases same
    have ordinary : isOrdinary char := isOrdinary_iff.mpr ⟨notEscape, notGroup, within, notSet⟩
    exact .inr (.inl ⟨_, rfl, .of_skims (.cons ordinary (.refl _))⟩)

end Turns

variable {reading : Reading} {result : Nested Expr} {final : Reader}

/-- A group is passed over as a whole if nothing in it is mistaken. -/
theorem passes_of_reads (reads : Reads Unmistaken reading result final) :
    Passes reading.reader.rest final.rest ∧ final.flags.ignoreBlanks = false := by
  induction reads with
  | close turned fits =>
    rcases passes_of_turn turned fits with same | ⟨_, other, -⟩ | ⟨_, _, _, other, -⟩
    · cases same
      exact ⟨.refl _, fits.1⟩
    · cases other
    · cases other
  | next turned fits onwards ih =>
    rcases passes_of_turn turned fits with other | ⟨_, same, passes⟩ | ⟨_, _, _, other, -⟩
    · cases other
    · cases same
      exact ⟨passes.trans ih.1, ih.2⟩
    · cases other
  | group turned fits contents closed onwards innerwards ih =>
    rcases passes_of_turn turned fits with
      other | ⟨_, other, -⟩ | ⟨_, _, after, same, begins, passes⟩
    · cases other
    · cases other
    · cases same
      -- The contents end with the parenthesis that brings the search up to its depth again.
      have inner := passes.trans (closed ▸ innerwards.1)
      exact ⟨begins ▸ inner.group.trans ih.1, ih.2⟩

/-- The pattern that has the look-behind before its rest. -/
def text (parts : LookbehindSource) : List Char :=
  ['(', '?', '<', if parts.negated then '!' else '='] ++ parts.assertion ++ ')' :: parts.rest

theorem split?_text {parts : LookbehindSource} (passes : Passes parts.assertion []) :
    split? parts.text = some parts := by
  obtain ⟨piece, same, neutral⟩ := passes
  obtain rfl : piece = parts.assertion := by simpa using same
  have closed : closing? 0 false (parts.assertion ++ ')' :: parts.rest) =
      some (parts.assertion, parts.rest) := by
    rw [neutral]
    simp [closing?_cons]
  cases parts with
  | mk negated assertion rest => cases negated <;> simp_all [text, split?]

variable {options : PatternOptions} {parts : LookbehindSource} {expr : Expr} {result : Nested Expr}
  {final : Reader}

/-- An assertion that can be read on its own can be read with the end of the text after it, if there
is room for that. -/
theorem exists_readLookbehind_iff (read : Pattern.readExpr options parts.assertion = .ok expr)
    (reads : Reads Unmistaken (.start ⟨parts.assertion, options.flags, 0, []⟩) result final) :
    (∃ lookbehind, Pattern.readLookbehind options parts = .ok lookbehind) ↔
      result.depth + 2 ≤ nestLimit ∧
        (Expr.sequence [expr, .look .textEnd]).footprint ≤ footprintLimit := by
  obtain ⟨alone, _, readsTo, drained, -, rfl⟩ :=
    ofSource_eq_ok_iff.mp (Pattern.readExpr_eq_ok_iff.mp read).1
  obtain ⟨rfl, rfl⟩ := readsTo.unique reads.readsTo
  obtain ⟨more, contents, left⟩ := reads.framed (.ended parts.assertion)
  have closing : more = assertionEnd := by
    rw [drained] at left
    refine left.of_nil.resolve_right fun dropped => ?_
    rw [(passes_of_reads reads).2] at dropped
    cases dropped.1
  subst closing
  -- The group and the sequence with the end of the text are one level each.
  have whole : ReadsTo (.start ⟨wholeAssertion parts.assertion, options.flags, 0, []⟩) _ _ :=
    readsTo_wholeAssertion rfl contents
  constructor
  · rintro ⟨lookbehind, known⟩
    obtain ⟨expr, readWhole, -⟩ := bind_eq_ok_iff.mp known
    obtain ⟨readWhole, small⟩ := Pattern.readExpr_eq_ok_iff.mp readWhole
    obtain ⟨again, _, readsWhole, -, shallow, rfl⟩ := ofSource_eq_ok_iff.mp readWhole
    obtain ⟨rfl, -⟩ := whole.unique readsWhole
    exact ⟨shallow, small⟩
  · rintro ⟨shallow, small⟩
    have readWhole := ofSource_eq_ok_iff.mpr ⟨_, _, whole, rfl, shallow, rfl⟩
    exact ⟨_, bind_eq_ok_iff.mpr ⟨_, Pattern.readExpr_eq_ok_iff.mpr ⟨readWhole, small⟩, rfl⟩⟩

end LookbehindSource

open LookbehindSource in
/-- A pattern with a look-behind is split where its assertion ends, if nothing in the assertion is
mistaken. It can be read if both parts can and there is room for what is put around the assertion.
-/
theorem Pattern.compile_text {options : PatternOptions} (parts : LookbehindSource)
    {expr rest : Expr} {result : Nested Expr} {final : Reader}
    (read : readExpr options parts.assertion = .ok expr)
    (readRest : readExpr options parts.rest = .ok rest)
    (reads : Reads Unmistaken (.start ⟨parts.assertion, options.flags, 0, []⟩) result final) :
    split? parts.text = some parts ∧
      ((∃ pattern, compile options (.ofList parts.text) = .ok pattern) ↔
        result.depth + 2 ≤ nestLimit ∧
          (Expr.sequence [expr, .look .textEnd]).footprint ≤ footprintLimit) := by
  have drained : final.rest = [] := by
    obtain ⟨_, _, readsTo, drained, -⟩ := ofSource_eq_ok_iff.mp (readExpr_eq_ok_iff.mp read).1
    rw [(readsTo.unique reads.readsTo).2]
    exact drained
  have split : split? parts.text = some parts := split?_text (drained ▸ (passes_of_reads reads).1)
  refine ⟨split, Iff.trans ?_ (exists_readLookbehind_iff read reads)⟩
  constructor
  · rintro ⟨pattern, compiled⟩
    obtain ⟨lookbehind, _, known, -⟩ := exists_rest compiled (by rwa [String.toList_ofList])
    exact ⟨lookbehind, known⟩
  · rintro ⟨lookbehind, known⟩
    simp only [compile, String.toList_ofList, split]
    exact ⟨_, bind_eq_ok_iff.mpr ⟨_, known,
      bind_eq_ok_iff.mpr ⟨_, rfl, bind_eq_ok_iff.mpr ⟨_, readRest, rfl⟩⟩⟩⟩

/-- Parentheses after a backslash, in a set and around a group do not close the assertion. -/
theorem Pattern.compile_text_of_parentheses : ∃ pattern,
    LookbehindSource.split? "(?<!(?:\\)|[^)]a))b".toList =
      some ⟨true, "(?:\\)|[^)]a)".toList, ['b']⟩ ∧
    compile {} "(?<!(?:\\)|[^)]a))b" = .ok pattern := by
  have set : LookbehindSource.Passes "[^)]a)".toList "a)".toList :=
    ⟨'[' :: (['^', ')'] ++ [']']), rfl, .set (by decide)⟩
  have reads : Reads LookbehindSource.Unmistaken
      (.start ⟨"(?:\\)|[^)]a)".toList, PatternOptions.flags {}, 0, []⟩) _ _ :=
    .group rfl ⟨rfl, nofun⟩
      (.next rfl ⟨rfl, nofun⟩ <| .next rfl ⟨rfl, nofun⟩ <| .next rfl ⟨rfl, fun _ => set⟩ <|
        .next rfl ⟨rfl, nofun⟩ <| .close rfl ⟨rfl, trivial⟩)
      rfl (.close rfl ⟨rfl, trivial⟩)
  have readable : (readExpr {} "(?:\\)|[^)]a)".toList).toOption.any fun expr =>
      (Expr.sequence [expr, .look .textEnd]).footprint ≤ footprintLimit := by
    decide +kernel
  obtain ⟨expr, read, small⟩ := exists_ok_of_any readable
  have readableRest : (readExpr {} ['b']).toOption.any fun _ => true := by
    decide +kernel
  obtain ⟨rest, readRest, -⟩ := exists_ok_of_any readableRest
  obtain ⟨split, compiles⟩ := compile_text ⟨true, _, _⟩ read readRest reads
  obtain ⟨pattern, compiled⟩ := compiles.mpr ⟨by decide, of_decide_eq_true small⟩
  exact ⟨pattern, split, compiled⟩

/-- A set may begin with a closing bracket, which is then an item. The search for the parenthesis
takes it for the end of the set. -/
theorem Pattern.exists_set_mistaken : ∃ expr rest,
    readExpr {} "[])]".toList = .ok expr ∧ readExpr {} "b".toList = .ok rest ∧
      LookbehindSource.split? "(?<=[])])b".toList = some ⟨false, "[]".toList, "])b".toList⟩ ∧
      compile {} "(?<=[])])b" = .error .classUnclosed := by
  have readable : (readExpr {} "[])]".toList).toOption.any fun _ => true := by
    decide +kernel
  obtain ⟨expr, read, -⟩ := exists_ok_of_any readable
  have readableRest : (readExpr {} "b".toList).toOption.any fun _ => true := by
    decide +kernel
  obtain ⟨rest, readRest, -⟩ := exists_ok_of_any readableRest
  exact ⟨expr, rest, read, readRest, by decide +kernel, rfl⟩

end RuleLexer
