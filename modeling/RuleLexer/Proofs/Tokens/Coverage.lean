import RuleLexer.Proofs.Tokens.Delivery

/-!
# Coverage

The tokens of a text leave nothing out and put nothing in. A whole run spells the text that it runs
over, and a drained stream has delivered the whole run; what is left to see is that the offsets of
tokens that spell a text are offsets the text can be cut at.

## Main result

`tokenizeFrom_covers`: the tokens of a text tile it, and their texts put together are the text.
-/
namespace RuleLexer

open Text

variable {text : List Char}

/-- A token that stands between a front part and a back part of a text has a text of its own. -/
theorem Token.text_eq_ok {front piece back : List Char} {token : Token}
    (within : text = front ++ (piece ++ back)) (starts : token.start = byteLength front)
    (stops : token.stop = byteLength front + byteLength piece) : token.text text = .ok piece := by
  have sliced : slice? text token.start token.stop = some piece :=
    slice?_eq_some_iff.mpr ⟨front, back, by simp [within], starts.symm, by omega⟩
  simp [Token.text, slice, sliced]

/-- The texts of tokens that spell a part of a text are the pieces of this part. -/
theorem Text.Spells.exists_pieces {start : Nat} {tokens : List Token} {chars : List Char}
    (spelled : Spells start (tokens.map Token.span) chars) {front back : List Char}
    (within : text = front ++ (chars ++ back)) (aligned : byteLength front = start) :
    ∃ pieces, tokens.mapM (Token.text text) = .ok pieces ∧ pieces.flatten = chars := by
  induction tokens generalizing start chars front with
  | nil =>
    have empty : chars = [] := by
      cases spelled
      rfl
    exact ⟨[], rfl, by simp [empty]⟩
  | cons token tokens ih =>
    rw [List.map_cons] at spelled
    obtain ⟨piece, rest, -, rfl, extent, tail⟩ := Spells.cons_iff.mp spelled
    obtain ⟨starts, stops⟩ := Prod.mk.inj extent
    have here : text = front ++ (piece ++ (rest ++ back)) := by simp [within]
    have first : token.text text = .ok piece := by
      apply Token.text_eq_ok here
      · rw [starts, aligned]
      · rw [stops, aligned]
    have further : text = (front ++ piece) ++ (rest ++ back) := by simp [within]
    obtain ⟨pieces, texts, joined⟩ := ih tail further (by rw [byteLength_append, aligned])
    refine ⟨piece :: pieces, ?_, by simp [joined]⟩
    rw [List.mapM_cons, first, texts]
    rfl

/-- **Coverage.** Draining a stream comes to an end where it has no more token to give. The tokens
until then follow one another without a gap from the beginning of the text to its end, each of them
is not empty and lies between two characters, so each has a text, and these texts in order are the
text. An empty text has no tokens. -/
theorem tokenizeFrom_covers (library : Library) (table : RuleTable) (text : List Char)
    (state : String) :
    let delivered := (table.tokenizeFrom library text state).drain
    delivered.2.next.1 = none ∧
    Tiles text 0 (delivered.1.map Token.span) (byteLength text) ∧
    (∃ pieces, delivered.1.mapM (Token.text text) = .ok pieces ∧ pieces.flatten = text) ∧
    (text = [] → delivered.1 = []) := by
  intro delivered
  obtain ⟨whole, drained, -⟩ := Tokens.drain_start library table text state
  have spelled : Spells 0 (delivered.1.map Token.span) text := by
    have spelled := Engine.run_spells library (.start table text state 0)
    rwa [← whole] at spelled
  have within : text = [] ++ (text ++ []) := by simp
  refine ⟨?_, ?_, spelled.exists_pieces within rfl, ?_⟩
  · have still : delivered.2.next = (none, delivered.2) := drained.next
    rw [still]
  · simpa using spelled.tiles within rfl
  · intro empty
    have few := spelled.length_le
    rw [empty, List.length_map] at few
    exact List.length_eq_zero_iff.mp (Nat.le_zero.mp few)

end RuleLexer
