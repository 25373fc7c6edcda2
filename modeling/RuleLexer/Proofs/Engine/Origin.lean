import RuleLexer.Proofs.Engine.Run

/-!
# Where tokens come from

A whole run puts the tokens of nested runs together with its own, so a token of it may have been put
out by an engine several levels down. `Arises` follows the engines of a run like `Reaches`, and adds
up the offsets on the way: it says where in the outermost text the text of an engine begins.

## Main result

`mem_run_iff`: the tokens of a run are those that the steps of its engines put out.
-/
namespace RuleLexer

theorem Item.mem_tokens_iff {library : Library} {items : List Item} {token : Token} :
    token ∈ Item.tokens library items ↔ .token token ∈ items ∨
      ∃ offset inner raw, .nested offset inner ∈ items ∧ raw ∈ (inner.run library).1 ∧
        token = raw.shift offset := by
  induction items with
  | nil => simp [Item.tokens]
  | cons item rest ih =>
    cases item with
    | token first => simp [Item.tokens, ih, or_assoc]
    | nested offset inner =>
      rw [Item.tokens, List.mem_append, List.mem_map, ih]
      constructor
      · rintro (⟨raw, among, rfl⟩ | here | ⟨further, other, raw, handed, among, rfl⟩)
        · exact .inr ⟨offset, inner, raw, List.mem_cons_self, among, rfl⟩
        · exact .inl (List.mem_cons_of_mem _ here)
        · exact .inr ⟨further, other, raw, List.mem_cons_of_mem _ handed, among, rfl⟩
      · rintro (here | ⟨further, other, raw, handed, among, rfl⟩)
        · cases List.mem_cons.mp here with
          | inl same => cases same
          | inr here => exact .inr (.inl here)
        · cases List.mem_cons.mp handed with
          | inl same =>
            cases same
            exact .inl ⟨raw, among, rfl⟩
          | inr handed => exact .inr (.inr ⟨further, other, raw, handed, among, rfl⟩)

theorem Item.tokens_append (library : Library) (items more : List Item) :
    Item.tokens library (items ++ more) = Item.tokens library items ++ Item.tokens library more := by
  induction items with
  | nil => simp [Item.tokens]
  | cons item rest ih => cases item <;> simp [Item.tokens, ih]

namespace Engine

open Text

variable {library : Library} {origin engine inner : Engine} {base offset : Nat} {token : Token}

/-- An engine that comes about in a run over a text. Its own text begins at an offset of the text
that the run began with. -/
inductive Arises (library : Library) (origin : Engine) : Nat → Engine → Prop
  | origin : Arises library origin 0 origin
  | step {base : Nat} {engine : Engine} (arises : Arises library origin base engine)
      (nonempty : engine.after ≠ []) : Arises library origin base (engine.step library).2
  | nested {base offset : Nat} {engine inner : Engine} (arises : Arises library origin base engine)
      (nonempty : engine.after ≠ [])
      (handed : Item.nested offset inner ∈ (engine.step library).1) :
      Arises library origin (base + offset) inner

namespace Arises

theorem reaches (arises : Arises library origin base engine) : Reaches library origin engine := by
  induction arises with
  | origin => exact .origin
  | step _ nonempty ih => exact ih.step nonempty
  | nested _ nonempty handed ih => exact ih.nested nonempty handed

theorem trans {further : Nat} (first : Arises library origin base engine)
    (second : Arises library engine further inner) :
    Arises library origin (base + further) inner := by
  induction second with
  | origin => exact first
  | step _ nonempty ih => exact ih.step nonempty
  | nested _ nonempty handed ih =>
    rw [← Nat.add_assoc]
    exact ih.nested nonempty handed

/-- The text of an engine is the part of the whole text that begins at its offset. -/
theorem exists_within (arises : Arises library origin base engine) (aligned : origin.Aligned) :
    ∃ front back, origin.text = front ++ (engine.text ++ back) ∧ byteLength front = base := by
  induction arises with
  | origin => exact ⟨[], [], by simp, rfl⟩
  | @step base engine _ nonempty ih =>
    obtain ⟨front, passes, -⟩ := step_passes library engine nonempty
    rwa [passes.text_eq]
  | @nested base offset engine inner arises nonempty handed ih =>
    obtain ⟨front, back, whole, size⟩ := ih
    obtain ⟨_, _, part, _, piece, -, -, -, rfl, sliced, -, -, -, rfl⟩ :=
      arises.reaches.exists_delegate aligned nonempty handed
    obtain ⟨near, far, split, begins, -⟩ := slice?_eq_some_iff.mp sliced
    refine ⟨front ++ near, far ++ back, ?_, by rw [byteLength_append, size, begins]⟩
    rw [whole, split]
    simp [text, start]

/-- The tokens of an engine that comes about stand together among the tokens of the run. -/
theorem map_shift_run_infix (arises : Arises library origin base engine) :
    (engine.run library).1.map (Token.shift base) <:+: (origin.run library).1 := by
  induction arises with
  | origin => simp
  | @step base engine _ nonempty ih =>
    rw [run_of_nonempty nonempty] at ih
    exact ((List.suffix_append _ _).isInfix.map _).trans ih
  | @nested base offset engine inner _ nonempty handed ih =>
    obtain ⟨front, back, items⟩ := List.append_of_mem handed
    have inside : (inner.run library).1.map (Token.shift offset) <:+: (engine.run library).1 := by
      rw [run_of_nonempty nonempty, items, Item.tokens_append, Item.tokens]
      exact ⟨Item.tokens library front, _, by simp only [List.append_assoc]; rfl⟩
    have moved : ((inner.run library).1.map (Token.shift offset)).map (Token.shift base) =
        (inner.run library).1.map (Token.shift (base + offset)) := by
      rw [List.map_map]
      exact List.map_congr_left fun token _ => Token.shift_shift base offset token
    rw [← moved]
    exact (inside.map _).trans ih

/-- The tokens of an engine that comes about are tokens of the run, at the offset of its text. -/
theorem shift_mem_run (arises : Arises library origin base engine)
    (member : token ∈ (engine.run library).1) : token.shift base ∈ (origin.run library).1 :=
  arises.map_shift_run_infix.subset (List.mem_map_of_mem member)

/-- A step that leaves the cursor where it is uses up an idle step, so the idle steps that an engine
has used up have been made at its place. -/
theorem exists_idle (arises : Arises library origin base engine) (fresh : origin.idle = 0) :
    ∃ earlier, Arises library origin base earlier ∧ earlier.idle = 0 ∧
      Steps library engine.idle earlier engine ∧ earlier.cursor = engine.cursor := by
  induction arises with
  | origin =>
    refine ⟨origin, .origin, fresh, ?_, rfl⟩
    rw [fresh]
    exact .refl _
  | @step base engine arises nonempty ih =>
    obtain ⟨front, passes, -⟩ := step_passes library engine nonempty
    -- An idle step adds to those made at this place; any other step leads to a new place.
    rcases passes.idle with ⟨rfl, -, idle⟩ | ⟨-, idle⟩
    · obtain ⟨earlier, before, first, steps, still⟩ := ih
      refine ⟨earlier, before, first, idle ▸ steps.snoc nonempty, ?_⟩
      simp [still, passes.cursor, byteLength]
    · refine ⟨_, arises.step nonempty, idle, ?_, rfl⟩
      rw [idle]
      exact .refl _
  | @nested base offset engine inner arises nonempty handed _ =>
    obtain ⟨table, piece, state, -, -, -, rfl⟩ := exists_start_of_nested nonempty handed
    exact ⟨_, arises.nested nonempty handed, rfl, .refl _, rfl⟩

end Arises

/-- A token of a run has been put out by a step of an engine that comes about in the run, and has
been moved to where the text of this engine begins. -/
theorem mem_run_iff :
    token ∈ (origin.run library).1 ↔ ∃ base engine raw, Arises library origin base engine ∧
      engine.after ≠ [] ∧ .token raw ∈ (engine.step library).1 ∧ token = raw.shift base := by
  constructor
  · induction origin using run_induction library generalizing token with
    | drained engine left =>
      intro member
      rw [run_of_drained left] at member
      cases member
    | stepped engine nonempty ihRest ihNested =>
      intro member
      rw [run_of_nonempty nonempty, List.mem_append, Item.mem_tokens_iff] at member
      -- This step puts the token out, or an engine that it hands text to does, or a later step.
      rcases member with (here | ⟨offset, inner, raw, handed, among, rfl⟩) | later
      · exact ⟨0, engine, token, .origin, nonempty, here, rfl⟩
      · obtain ⟨base, source, raw, arises, left, put, rfl⟩ := ihNested offset inner handed among
        have entered : Arises library engine (0 + offset) inner := .nested .origin nonempty handed
        refine ⟨offset + base, source, raw, ?_, left, put, Token.shift_shift _ _ _⟩
        rw [Nat.zero_add] at entered
        exact entered.trans arises
      · obtain ⟨base, source, raw, arises, left, put, rfl⟩ := ihRest later
        refine ⟨base, source, raw, ?_, left, put, rfl⟩
        rw [← Nat.zero_add base]
        exact (Arises.step .origin nonempty).trans arises
  · rintro ⟨base, engine, raw, arises, nonempty, put, rfl⟩
    apply arises.shift_mem_run
    rw [run_of_nonempty nonempty]
    exact List.mem_append_left _ (Item.mem_tokens_iff.mpr (.inl put))

end Engine

end RuleLexer
