import RuleLexer.Proofs.Except
import RuleLexer.Proofs.Text.Tiling
import RuleLexer.Proofs.Text.Unescaping
import RuleLexer.Proofs.Token.Kind
import RuleLexer.Proofs.Tokens.Coverage
import RuleLexer.Token.Format

/-!
# Lines of tokens

The two line formats write a token as a few fields and end the line. No field before the text of the
token holds the character that ends the field, and the text is escaped, so the fields can be told
apart although the text may hold any of these characters itself.

The raw format writes the offsets of a token and the simple one does not. It need not: tokens that
tile a text begin where the one before them ends, so their texts in order say where they stand. The
offsets of the raw format are not used here either, and one argument does for both formats.

## Main result

`format_injective_of_tiles`: what is written for tokens that tile a text determines the tokens and
the text, and it consists of one line for each token.
-/
namespace RuleLexer

open Text

/-! ### Lines -/

/-- A field ends at the first character that is not in any field. -/
theorem append_cons_inj_of_fields {field other rest more : List Char} {delimiter : Char}
    (proper : delimiter ∉ field) (otherProper : delimiter ∉ other)
    (same : field ++ delimiter :: rest = other ++ delimiter :: more) :
    field = other ∧ rest = more := by
  rcases List.append_eq_append_iff.mp same with ⟨between, rfl, split⟩ | ⟨between, rfl, split⟩
  all_goals
    cases between with
    | nil => simpa [eq_comm] using split
    | cons first between =>
      obtain rfl := (List.cons.inj split).1
      simp at proper otherProper

theorem flatMap_newline_injective {lines others : List (List Char)}
    (single : ∀ line ∈ lines, '\n' ∉ line) (otherSingle : ∀ line ∈ others, '\n' ∉ line)
    (same : lines.flatMap (· ++ ['\n']) = others.flatMap (· ++ ['\n'])) : lines = others := by
  induction lines generalizing others with
  | nil =>
    cases others with
    | nil => rfl
    | cons other others => simp at same
  | cons line lines ih =>
    cases others with
    | nil => simp at same
    | cons other others =>
      obtain ⟨first, further⟩ := List.forall_mem_cons.mp single
      obtain ⟨otherFirst, otherFurther⟩ := List.forall_mem_cons.mp otherSingle
      simp only [List.flatMap_cons, List.append_assoc, List.singleton_append] at same
      obtain ⟨rfl, rest⟩ := append_cons_inj_of_fields first otherFirst same
      rw [ih further otherFurther rest]

theorem count_newline_flatMap {lines : List (List Char)} (single : ∀ line ∈ lines, '\n' ∉ line) :
    (lines.flatMap (· ++ ['\n'])).count '\n' = lines.length := by
  induction lines with
  | nil => rfl
  | cons line lines ih =>
    obtain ⟨first, further⟩ := List.forall_mem_cons.mp single
    simp [List.count_eq_zero.mpr first, ih further]

namespace TokenFormat

/-- The line of a token without the newline that ends it. -/
def line : TokenFormat → Token × List Char → List Char
  | simple, (token, text) =>
    '<' :: (token.kind.dottedName.toList ++ ':' :: (escape .bare text ++ ['>']))
  | raw, (token, text) =>
    Nat.toDigits 10 token.start ++ ' ' :: (Nat.toDigits 10 token.size ++
      ' ' :: (token.kind.dottedName.toList ++ ' ' :: quote text))
  | json, _ => []

theorem render_eq_lines {format : TokenFormat} (byLines : format ≠ json)
    (entries : List (Token × List Char)) :
    format.render entries = (entries.map format.line).flatMap (· ++ ['\n']) := by
  cases format with
  | simple => simp [render, line, simpleLine, List.flatMap_map]
  | raw => simp [render, line, rawLine, List.flatMap_map]
  | json => exact absurd rfl byLines

/-- A character that is neither a letter nor a dot is in no name of a kind. -/
theorem notMem_dottedName {kind : TokenKind} {char : Char} (sign : char.isAlpha = false)
    (proper : char ≠ '.') : char ∉ kind.dottedName.toList := by
  intro member
  rcases TokenKind.isAlpha_of_mem_dottedName member with letter | dot
  · rw [sign] at letter
    cases letter
  · exact proper dot

theorem notMem_decimal {value : Nat} {char : Char} (sign : char.isDigit = false) :
    char ∉ Nat.toDigits 10 value := by
  intro member
  rw [Number.isDigit_of_mem_toDigits member] at sign
  cases sign

theorem newline_notMem_line (format : TokenFormat) (entry : Token × List Char) :
    '\n' ∉ format.line entry := by
  have named : '\n' ∉ entry.1.kind.dottedName.toList := notMem_dottedName rfl (by decide)
  have number (value : Nat) : '\n' ∉ Nat.toDigits 10 value := notMem_decimal rfl
  have escaped (style : QuoteStyle) := newline_notMem_escape style entry.2
  cases format <;> simp [line, quote, named, number, escaped]

/-- A line shows the kind of a token and its text. -/
theorem line_injective {format : TokenFormat} (byLines : format ≠ json)
    {entry other : Token × List Char} (same : format.line entry = format.line other) :
    entry.1.kind = other.1.kind ∧ entry.2 = other.2 := by
  have named (kind : TokenKind) : ':' ∉ kind.dottedName.toList ∧ ' ' ∉ kind.dottedName.toList :=
    ⟨notMem_dottedName rfl (by decide), notMem_dottedName rfl (by decide)⟩
  have number (value : Nat) : ' ' ∉ Nat.toDigits 10 value := notMem_decimal rfl
  cases format with
  | simple =>
    -- The kind ends at the first colon.
    simp only [line, List.cons.injEq, true_and] at same
    obtain ⟨kinds, texts⟩ := append_cons_inj_of_fields (named _).1 (named _).1 same
    have escaped := List.append_cancel_right texts
    exact ⟨TokenKind.dottedName_injective (String.toList_inj.mp kinds),
      escape_injective _ escaped⟩
  | raw =>
    -- The offsets end at the first two blanks and the kind at the third.
    simp only [line] at same
    obtain ⟨-, afterStart⟩ := append_cons_inj_of_fields (number _) (number _) same
    obtain ⟨-, afterSize⟩ := append_cons_inj_of_fields (number _) (number _) afterStart
    obtain ⟨kinds, texts⟩ := append_cons_inj_of_fields (named _).2 (named _).2 afterSize
    have escaped := List.append_cancel_right (List.cons.inj texts).2
    exact ⟨TokenKind.dottedName_injective (String.toList_inj.mp kinds),
      escape_injective _ escaped⟩
  | json => exact absurd rfl byLines

end TokenFormat

/-! ### Places -/

/-- The tokens follow one another from an offset on, each as long as the text it comes with. -/
def Placed : Nat → List (Token × List Char) → Prop
  | _, [] => True
  | start, (token, piece) :: rest =>
    token.span = (start, start + byteLength piece) ∧ Placed (start + byteLength piece) rest

/-- Kinds and texts determine the tokens if these follow one another. -/
theorem Placed.eq_of_map_eq {start : Nat} {entries others : List (Token × List Char)}
    (placed : Placed start entries) (otherPlaced : Placed start others)
    (same : entries.map (fun entry => (entry.1.kind, entry.2)) =
      others.map fun entry => (entry.1.kind, entry.2)) : entries = others := by
  induction entries generalizing start others with
  | nil => exact (List.map_eq_nil_iff.mp same.symm).symm
  | cons entry entries ih =>
    cases others with
    | nil => cases same
    | cons other others =>
      obtain ⟨token, piece⟩ := entry
      obtain ⟨twin, twinPiece⟩ := other
      simp only [List.map_cons, List.cons.injEq, Prod.mk.injEq] at same
      obtain ⟨⟨kind, rfl⟩, rest⟩ := same
      obtain ⟨extent, further⟩ := placed
      obtain ⟨twinExtent, twinFurther⟩ := otherPlaced
      -- Both tokens start where the ones before them end and are as long as the same text.
      have alike : token = twin := by
        obtain ⟨starts, stops⟩ := Prod.mk.inj (extent.trans twinExtent.symm)
        cases token
        cases twin
        simp_all
      rw [alike, ih further twinFurther rest]

theorem Token.withTexts_eq_ok {text : List Char} {entries : List (Token × List Char)}
    (each : ∀ entry ∈ entries, entry.1.text text = .ok entry.2) :
    Token.withTexts text (entries.map Prod.fst) = .ok entries := by
  rw [Token.withTexts, mapM_eq_ok_iff, List.forall₂_map_left_iff, List.forall₂_same]
  intro entry member
  rw [each entry member]
  rfl

/-- Tokens that spell a part of a text can be put next to their pieces of it. -/
theorem Text.Spells.exists_placed {text : List Char} {start : Nat} {tokens : List Token}
    {chars : List Char} (spelled : Spells start (tokens.map Token.span) chars)
    {front back : List Char} (within : text = front ++ (chars ++ back))
    (aligned : byteLength front = start) :
    ∃ entries : List (Token × List Char), entries.map Prod.fst = tokens ∧
      (entries.map Prod.snd).flatten = chars ∧
      (∀ entry ∈ entries, entry.1.text text = .ok entry.2) ∧ Placed start entries := by
  induction tokens generalizing start chars front with
  | nil =>
    cases spelled
    exact ⟨[], rfl, rfl, by simp, trivial⟩
  | cons token tokens ih =>
    rw [List.map_cons] at spelled
    obtain ⟨piece, rest, -, rfl, extent, tail⟩ := Spells.cons_iff.mp spelled
    obtain ⟨starts, stops⟩ := Prod.mk.inj extent
    have here : text = front ++ (piece ++ (rest ++ back)) := by simp [within]
    have first : token.text text = .ok piece :=
      Token.text_eq_ok here (by rw [starts, aligned]) (by rw [stops, aligned])
    have further : text = (front ++ piece) ++ (rest ++ back) := by simp [within]
    obtain ⟨entries, those, joined, covers, placed⟩ :=
      ih tail further (by rw [byteLength_append, aligned])
    exact ⟨(token, piece) :: entries, by simp [those], by simp [joined],
      List.forall_mem_cons.mpr ⟨first, covers⟩, extent, placed⟩

/-- Tokens that tile a whole text can be put next to their pieces, which make up the text. -/
theorem Text.Tiles.exists_placed {text : List Char} {tokens : List Token}
    (tiled : Tiles text 0 (tokens.map Token.span) (byteLength text)) :
    ∃ entries : List (Token × List Char), entries.map Prod.fst = tokens ∧
      (entries.map Prod.snd).flatten = text ∧
      (∀ entry ∈ entries, entry.1.text text = .ok entry.2) ∧ Placed 0 entries := by
  have within : text = [] ++ (text ++ []) := by simp
  exact (tiles_iff_spells.mp tiled).exists_placed within rfl

/-! ### Formats -/

namespace TokenFormat

variable {format : TokenFormat} {text : List Char} {entries : List (Token × List Char)}

/-- Lines of tokens that follow one another from one offset show everything. -/
theorem eq_of_render_eq {others : List (Token × List Char)} (byLines : format ≠ json) {start : Nat}
    (placed : Placed start entries) (otherPlaced : Placed start others)
    (same : format.render entries = format.render others) : entries = others := by
  have single (entries : List (Token × List Char)) :
      ∀ line ∈ entries.map format.line, '\n' ∉ line :=
    List.forall_mem_map.mpr fun entry _ => format.newline_notMem_line entry
  rw [render_eq_lines byLines, render_eq_lines byLines] at same
  have lines := flatMap_newline_injective (single entries) (single others) same
  apply placed.eq_of_map_eq otherPlaced
  rw [← List.forall₂_eq_eq_eq, List.forall₂_map_left_iff, List.forall₂_map_right_iff] at lines ⊢
  exact lines.imp fun _ _ alike => Prod.ext_iff.mpr (line_injective byLines alike)

theorem format_eq_render (each : ∀ entry ∈ entries, entry.1.text text = .ok entry.2) :
    Token.format (entries.map Prod.fst) text format = .ok (format.render entries) := by
  rw [Token.format, Token.withTexts_eq_ok each]
  rfl

/-- Each token has a line of its own, which does not depend on the tokens around it. -/
theorem forall₂_line (byLines : format ≠ json)
    (each : ∀ entry ∈ entries, entry.1.text text = .ok entry.2) :
    List.Forall₂ (fun token line => '\n' ∉ line ∧
        Token.format [token] text format = .ok (line ++ ['\n']))
      (entries.map Prod.fst) (entries.map format.line) := by
  rw [List.forall₂_map_left_iff, List.forall₂_map_right_iff, List.forall₂_same]
  intro entry member
  refine ⟨format.newline_notMem_line entry, ?_⟩
  have alone : Token.format ([entry].map Prod.fst) text format = .ok (format.render [entry]) :=
    format_eq_render (List.forall_mem_singleton.mpr (each entry member))
  rw [List.map_singleton] at alone
  rw [alone, render_eq_lines byLines]
  simp

end TokenFormat

/-- **Line formats lose nothing.** For two texts with tokens that tile them, the same output means
that the texts are the same and the tokens are. The output is made of one line for each token, which
is what is written for this token alone; the newline at its end is the only one in it, so the output
has as many newlines as there are tokens. -/
theorem format_injective_of_tiles {format : TokenFormat} (byLines : format ≠ .json)
    {text other : List Char} {tokens others : List Token}
    (tiled : Tiles text 0 (tokens.map Token.span) (byteLength text))
    (otherTiled : Tiles other 0 (others.map Token.span) (byteLength other)) :
    ∃ out otherOut, Token.format tokens text format = .ok out ∧
      Token.format others other format = .ok otherOut ∧
      (out = otherOut → text = other ∧ tokens = others) ∧
      (∃ lines : List (List Char), out = lines.flatMap (· ++ ['\n']) ∧
        List.Forall₂ (fun token line => '\n' ∉ line ∧
          Token.format [token] text format = .ok (line ++ ['\n'])) tokens lines) ∧
      out.count '\n' = tokens.length := by
  obtain ⟨entries, rfl, joined, each, placed⟩ := tiled.exists_placed
  obtain ⟨otherEntries, rfl, otherJoined, otherEach, otherPlaced⟩ := otherTiled.exists_placed
  have lines := format.render_eq_lines byLines entries
  refine ⟨_, _, TokenFormat.format_eq_render each, TokenFormat.format_eq_render otherEach, ?_,
    ⟨_, lines, TokenFormat.forall₂_line byLines each⟩, ?_⟩
  · intro same
    rw [← joined, ← otherJoined, format.eq_of_render_eq byLines placed otherPlaced same]
    exact ⟨rfl, rfl⟩
  · rw [lines, count_newline_flatMap]
    · simp
    · exact List.forall_mem_map.mpr fun entry _ => format.newline_notMem_line entry

/-- A newline and the backslash and letter that stand for it are written differently. -/
theorem format_injective_of_newline :
    let text := ['<', '\n']
    let other := ['<', '\\', 'n']
    let tokens : List Token := [⟨.punctuation, 0, 1⟩, ⟨.whitespace, 1, 2⟩]
    let others : List Token := [⟨.punctuation, 0, 1⟩, ⟨.whitespace, 1, 3⟩]
    ∃ out otherOut, Token.format tokens text .simple = .ok out ∧
      Token.format others other .simple = .ok otherOut ∧ out ≠ otherOut ∧ out.count '\n' = 2 := by
  intro text other tokens others
  have tiled : Tiles text 0 (tokens.map Token.span) (byteLength text) :=
    ⟨rfl, ⟨[], text, rfl, rfl⟩, by decide, rfl, ⟨['<'], ['\n'], rfl, rfl⟩, by decide, rfl,
      text, [], rfl, rfl⟩
  have otherTiled : Tiles other 0 (others.map Token.span) (byteLength other) :=
    ⟨rfl, ⟨[], other, rfl, rfl⟩, by decide, rfl, ⟨['<'], ['\\', 'n'], rfl, rfl⟩, by decide, rfl,
      other, [], rfl, rfl⟩
  obtain ⟨out, otherOut, first, second, lossless, -, lines⟩ :=
    format_injective_of_tiles (by decide : TokenFormat.simple ≠ .json) tiled otherTiled
  exact ⟨out, otherOut, first, second, fun same => absurd (lossless same).1 (by decide), lines⟩

end RuleLexer
