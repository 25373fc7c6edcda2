import RuleLexer.Proofs.Except
import RuleLexer.Proofs.Tokens.Coverage
import RuleLexer.Token.Check

/-!
# The check that tokens cover a text

The check first goes through the offsets of the tokens. Each token must not be empty and must start
where the one before it stops, and the last one must stop at the end of the text. Such offsets can
still lie inside characters, which comes out when the check asks for the texts of the tokens. If all
of them are there, the tokens tile the text. Nothing is left then for the comparison at the end to
find, and indeed it is the one part of the check that never fails.

## Main results

* `coversSource_eq_ok_iff_tiles`: the check passes just if the tokens tile the text.
* `explained_coversSource`: every failure comes with a message, or names a text that is not there.
* `coversSource_exact`: the two together, and that the tokens of every text pass.
-/
namespace RuleLexer

open Text

/-! ### Chains -/

namespace Text

/-- The stretches follow one another from an offset to another one, and none of them is empty.
Unlike stretches that tile a text they may begin or end inside a character. -/
def Chained : Nat → List (Nat × Nat) → Nat → Prop
  | start, [], stop => start = stop
  | start, (first, last) :: rest, stop => first = start ∧ first < last ∧ Chained last rest stop

theorem Tiles.chained {text : List Char} {spans : List (Nat × Nat)} {start stop : Nat}
    (tiled : Tiles text start spans stop) : Chained start spans stop := by
  induction spans generalizing start with
  | nil => exact tiled.1
  | cons span rest ih =>
    obtain ⟨starts, -, proper, further⟩ := tiled
    exact ⟨starts, proper, ih further⟩

end Text

theorem Token.isBoundary_of_text {source piece : List Char} {token : Token}
    (given : token.text source = .ok piece) : IsBoundary source token.start := by
  unfold Token.text slice at given
  split at given
  next part sliced =>
    obtain ⟨front, back, split, starts, -⟩ := slice?_eq_some_iff.mp sliced
    exact ⟨front, part ++ back, by rw [split, List.append_assoc], starts⟩
  next => cases given

/-- Tokens in a chain tile a text if each of them has a part of it. -/
theorem Text.Chained.tiles {source : List Char} {tokens : List Token} {texts : List (List Char)}
    {start stop : Nat} (chained : Chained start (tokens.map Token.span) stop)
    (known : tokens.mapM (Token.text source) = .ok texts) (last : IsBoundary source stop) :
    Tiles source start (tokens.map Token.span) stop := by
  rw [mapM_eq_ok_iff] at known
  -- A token stops where the next one starts, so it is enough to know where tokens start.
  induction known generalizing start with
  | nil => exact ⟨chained, last⟩
  | cons given _ ih =>
    obtain ⟨starts, proper, further⟩ := chained
    exact ⟨starts, Token.isBoundary_of_text given, proper, ih further⟩

namespace TokenCheck

variable {check : TokenCheck} {token : Token} {tokens : List Token} {texts : List (List Char)}
  {index expected stop : Nat}

/-! ### What passes -/

theorem fail_ne_ok (text : String) : check.fail text ≠ .ok () := by
  intro passed
  obtain ⟨_, -, thrown⟩ := bind_eq_ok_iff.mp passed
  cases thrown

theorem failDifferent_ne_ok (text left right : String) :
    check.failDifferent text left right ≠ .ok () := by
  intro passed
  obtain ⟨_, -, thrown⟩ := bind_eq_ok_iff.mp passed
  cases thrown

theorem checkContiguous_eq_ok_iff : check.checkContiguous index expected tokens = .ok stop ↔
    Chained expected (tokens.map Token.span) stop := by
  induction tokens generalizing index expected with
  | nil => exact ⟨Except.ok.inj, congrArg Except.ok⟩
  | cons token rest ih =>
    rw [checkContiguous]
    dsimp only
    rw [guarded_eq_ok_iff (fail_ne_ok _), guarded_eq_ok_iff (failDifferent_ne_ok _ _ _), ih]
    simp only [List.map_cons, Token.span, Chained, Token.isEmpty, decide_eq_true_eq, Nat.not_le,
      Decidable.not_not]
    tauto

theorem textOf_eq_ok_iff {piece : List Char} :
    check.textOf token = .ok piece ↔ token.text check.source = .ok piece := by
  unfold textOf
  cases token.text check.source <;> simp [Except.mapError]

theorem mapM_textOf_eq_ok_iff :
    tokens.mapM check.textOf = .ok texts ↔ tokens.mapM (Token.text check.source) = .ok texts := by
  simp only [mapM_eq_ok_iff, textOf_eq_ok_iff]

/-- The check passes if the tokens are a chain over the text and their texts make up the text. -/
theorem coversSource_eq_ok_iff : check.coversSource = .ok () ↔
    Chained 0 (check.tokens.map Token.span) (byteLength check.source) ∧
      ∃ texts, check.tokens.mapM check.textOf = .ok texts ∧ texts.flatten = check.source := by
  simp only [coversSource, bind_eq_ok_iff, guarded_eq_ok_iff (failDifferent_ne_ok _ _ _),
    checkContiguous_eq_ok_iff, Decidable.not_not]
  constructor
  · rintro ⟨_, chained, rfl, texts, known, compared⟩
    refine ⟨chained, texts, known, ?_⟩
    by_contra different
    rw [if_pos different] at compared
    cases compared
  · rintro ⟨chained, texts, known, joined⟩
    refine ⟨_, chained, rfl, texts, known, ?_⟩
    rw [if_neg (not_not_intro joined)]
    rfl

/-! ### Tilings -/

theorem exists_texts_of_tiles
    (tiled : Tiles check.source 0 (check.tokens.map Token.span) (byteLength check.source)) :
    ∃ texts, check.tokens.mapM check.textOf = .ok texts ∧ texts.flatten = check.source := by
  have within : check.source = [] ++ (check.source ++ []) := by simp
  obtain ⟨texts, known, joined⟩ := (tiles_iff_spells.mp tiled).exists_pieces within rfl
  exact ⟨texts, mapM_textOf_eq_ok_iff.mpr known, joined⟩

section Texts

variable (chained : Chained 0 (check.tokens.map Token.span) (byteLength check.source))
  (known : check.tokens.mapM check.textOf = .ok texts)

include chained known

theorem tiles_of_texts :
    Tiles check.source 0 (check.tokens.map Token.span) (byteLength check.source) :=
  chained.tiles (mapM_textOf_eq_ok_iff.mp known) ⟨check.source, [], by simp, rfl⟩

/-- The comparison at the end finds no difference. -/
theorem flatten_eq_of_texts : texts.flatten = check.source := by
  obtain ⟨pieces, same, joined⟩ := exists_texts_of_tiles (tiles_of_texts chained known)
  obtain rfl := Except.ok.inj (known.symm.trans same)
  exact joined

end Texts

theorem coversSource_eq_ok_iff_tiles : check.coversSource = .ok () ↔
    Tiles check.source 0 (check.tokens.map Token.span) (byteLength check.source) := by
  rw [coversSource_eq_ok_iff]
  constructor
  · rintro ⟨chained, texts, known, -⟩
    exact tiles_of_texts chained known
  · intro tiled
    exact ⟨tiled.chained, exists_texts_of_tiles tiled⟩

/-! ### What fails

Of all failures only that of the last comparison shows two values without a message. -/

section Failures

variable {α β : Type}

def Explained (checked : Checked α) : Prop :=
  ∀ left right, checked ≠ .error (.different none left right)

theorem explained_ok (value : α) : Explained (.ok value) := by
  intro left right failed
  cases failed

theorem Explained.bind {first : Checked α} {next : α → Checked β} (one : Explained first)
    (other : ∀ value, Explained (next value)) : Explained (first >>= next) := by
  intro left right failed
  rcases bind_eq_error_iff.mp failed with early | ⟨value, -, late⟩
  · exact one left right early
  · exact other value left right late

theorem explained_mapM {read : α → Checked β} (each : ∀ item, Explained (read item))
    (items : List α) : Explained (items.mapM read) := by
  induction items with
  | nil => exact explained_ok []
  | cons item items ih =>
    rw [List.mapM_cons]
    exact (each item).bind fun _ => ih.bind fun _ => explained_ok _

theorem explained_guarded {condition : Prop} [Decidable condition] {report : Checked Unit}
    {rest : Unit → Checked α} (reported : Explained report) (continued : Explained (rest ())) :
    Explained (if condition then report >>= rest else rest ()) := by
  split
  · exact reported.bind fun _ => continued
  · exact continued

end Failures

theorem explained_textOf (check : TokenCheck) (token : Token) :
    Explained (check.textOf token) := by
  intro left right failed
  unfold textOf at failed
  cases given : token.text check.source with
  | ok piece =>
    rw [given] at failed
    cases failed
  | error cause =>
    rw [given] at failed
    cases failed

theorem explained_summary (check : TokenCheck) : Explained check.summary := by
  have line (token : Token) : Explained (do
      let text ← check.textOf token
      return "  " ++ token.extentText ++ " " ++ token.kind.dottedName ++ " " ++ quoteText text) :=
    (check.explained_textOf token).bind fun _ => explained_ok _
  exact (explained_mapM line _).bind fun _ => explained_ok _

theorem explained_fail (check : TokenCheck) (text : String) : Explained (check.fail text) := by
  refine check.explained_summary.bind fun summary left right failed => ?_
  cases failed

theorem explained_failDifferent (check : TokenCheck) (text left right : String) :
    Explained (check.failDifferent text left right) := by
  refine check.explained_summary.bind fun summary left right failed => ?_
  cases failed

theorem explained_checkContiguous (check : TokenCheck) (index expected : Nat)
    (tokens : List Token) : Explained (check.checkContiguous index expected tokens) := by
  induction tokens generalizing index expected with
  | nil => exact explained_ok expected
  | cons token rest ih =>
    rw [checkContiguous]
    exact explained_guarded (check.explained_fail _)
      (explained_guarded (check.explained_failDifferent _ _ _) (ih _ _))

theorem explained_coversSource (check : TokenCheck) : Explained check.coversSource := by
  intro left right failed
  rcases bind_eq_error_iff.mp failed with early | ⟨stop, contiguous, failed⟩
  · exact check.explained_checkContiguous _ _ _ left right early
  rcases (guarded_eq_error_iff (failDifferent_ne_ok _ _ _)).mp failed with
    ⟨-, reported⟩ | ⟨same, failed⟩
  · exact check.explained_failDifferent _ _ _ left right reported
  rcases bind_eq_error_iff.mp failed with missing | ⟨texts, known, compared⟩
  · exact explained_mapM check.explained_textOf _ left right missing
  -- The offsets are a chain and the texts are there, so the comparison passes.
  · have chained := checkContiguous_eq_ok_iff.mp contiguous
    rw [not_not.mp same] at chained
    rw [if_neg (not_not_intro (flatten_eq_of_texts chained known))] at compared
    cases compared

/-- **The check of coverage.** Whatever tokens are put together with a text, the check passes if and
only if none of them is empty, each starts where the one before it stops, the first of them at the
beginning of the text, the last one stops at its end, and all of them start and stop between
characters. A check that does not pass never fails in the comparison of the texts put together,
which alone would show two values without a message. The tokens of a text, from whatever table and
state, pass. -/
theorem coversSource_exact (source : List Char) (tokens : List Token) :
    let check : TokenCheck := ⟨source, tokens⟩
    (check.coversSource = .ok () ↔ Tiles source 0 (tokens.map Token.span) (byteLength source)) ∧
    (∀ left right, check.coversSource ≠ .error (.different none left right)) ∧
    ∀ (library : Library) (table : RuleTable) (state : String),
      coversSource ⟨source, (table.tokenizeFrom library source state).drain.1⟩ = .ok () := by
  intro check
  refine ⟨coversSource_eq_ok_iff_tiles, check.explained_coversSource, ?_⟩
  intro library table state
  have spelled := Tokens.drain_spells library table source state
  exact coversSource_eq_ok_iff_tiles.mpr (tiles_iff_spells.mpr spelled)

/-- A token that begins inside a character may follow another one without a gap, but it has no
text. -/
example : ∃ cause, coversSource ⟨['é', 'b'], [⟨.name, 0, 1⟩, ⟨.name, 1, 3⟩]⟩ =
    .error (.noSlice cause) :=
  ⟨_, rfl⟩

end TokenCheck

end RuleLexer
