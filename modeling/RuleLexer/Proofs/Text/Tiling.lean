import RuleLexer.Text.Offset

/-!
# Tilings of a text

Offsets count bytes and texts are lists of characters, so every statement about offsets goes through
the front part of a text that they measure. A cut succeeds exactly at the end of a front part, and
two front parts of one text are comparable: the one with fewer bytes is a front part of the other.

## Main definitions

`Spells` says that stretches follow one another from an offset on and that each takes up some
characters of a text, all of it together. Since it holds the characters themselves, it is closed
under joining and moving without any side condition about boundaries. `Tiles` says the same of a
stretch of a fixed text by its offsets alone, and `Spells.tiles` and `Tiles.exists_spells` lead from
one to the other. For a whole text they are the same (`tiles_iff_spells`).
-/
namespace RuleLexer.Text

/-! ### Lengths and cuts -/

theorem byteLength_append (front back : List Char) :
    byteLength (front ++ back) = byteLength front + byteLength back := by
  induction front with
  | nil => simp [byteLength]
  | cons char rest ih => simp only [List.cons_append, byteLength, ih]; omega

theorem byteLength_pos {text : List Char} (nonempty : text ≠ []) : 0 < byteLength text := by
  cases text with
  | nil => exact absurd rfl nonempty
  | cons char rest =>
    have := char.utf8Size_pos
    simp only [byteLength]
    omega

theorem byteLength_eq_zero_iff {text : List Char} : byteLength text = 0 ↔ text = [] := by
  constructor
  · intro h
    by_cases nonempty : text = []
    · exact nonempty
    · have := byteLength_pos nonempty
      omega
  · rintro rfl
    rfl

/-- The longer of two front parts begins with the shorter one. -/
theorem exists_between {left right front back : List Char}
    (same : left ++ right = front ++ back) (shorter : byteLength left ≤ byteLength front) :
    ∃ between, front = left ++ between ∧ right = between ++ back := by
  rcases List.append_eq_append_iff.mp same with ⟨between, hfront, hright⟩ | ⟨between, hleft, hback⟩
  · exact ⟨between, hfront, hright⟩
  · have empty : between = [] := by
      rw [← byteLength_eq_zero_iff]
      rw [hleft, byteLength_append] at shorter
      omega
    subst empty
    exact ⟨[], by simpa using hleft.symm, by simpa using hback.symm⟩

/-- Two front parts of one text that are equally long are the same. -/
theorem append_inj_of_byteLength_eq {left right front back : List Char}
    (same : left ++ right = front ++ back) (length : byteLength left = byteLength front) :
    left = front ∧ right = back := by
  obtain ⟨between, rfl, rfl⟩ := exists_between same (Nat.le_of_eq length)
  have empty : between = [] := by
    rw [← byteLength_eq_zero_iff]
    rw [byteLength_append] at length
    omega
  subst empty
  simp

private theorem splitOnto_zero_iff {passed text before after : List Char} :
    splitOnto passed text 0 = some (before, after) ↔
      ∃ front, text = front ++ after ∧ before = front.reverse ++ passed ∧ byteLength front = 0 := by
  have stays : splitOnto passed text 0 = some (passed, text) := by cases text <;> rfl
  simp only [stays, Option.some.injEq, Prod.mk.injEq, byteLength_eq_zero_iff]
  constructor
  · rintro ⟨rfl, rfl⟩
    exact ⟨[], rfl, rfl, rfl⟩
  · rintro ⟨front, htext, hbefore, rfl⟩
    exact ⟨hbefore.symm, htext⟩

theorem splitOnto_eq_some_iff {passed text before after : List Char} {count : Nat} :
    splitOnto passed text count = some (before, after) ↔
      ∃ front, text = front ++ after ∧ before = front.reverse ++ passed ∧
        byteLength front = count := by
  induction text generalizing passed count with
  | nil =>
    cases count with
    | zero => exact splitOnto_zero_iff
    | succ count =>
      simp only [splitOnto, reduceCtorEq, false_iff, not_exists]
      rintro front ⟨hfront, -, hcount⟩
      obtain ⟨rfl, -⟩ := List.append_eq_nil_iff.mp hfront.symm
      simp [byteLength] at hcount
  | cons char rest ih =>
    cases count with
    | zero => exact splitOnto_zero_iff
    | succ count =>
      simp only [splitOnto]
      constructor
      · intro h
        split at h
        next fits =>
          obtain ⟨front, hrest, hbefore, hcount⟩ := ih.mp h
          exact ⟨char :: front, by simp [hrest], by simp [hbefore],
            by simp only [byteLength]; omega⟩
        next => cases h
      · rintro ⟨front, hfront, hbefore, hcount⟩
        cases front with
        | nil => simp [byteLength] at hcount
        | cons first front =>
          simp only [List.cons_append, List.cons.injEq] at hfront
          obtain ⟨rfl, hrest⟩ := hfront
          simp only [byteLength] at hcount
          rw [if_pos (by omega)]
          exact ih.mpr ⟨front, hrest, by simp [hbefore], by omega⟩

/-- What lies further back plays no part in a cut. -/
theorem splitOnto_append (passed further text : List Char) (count : Nat) :
    splitOnto (passed ++ further) text count =
      (splitOnto passed text count).map fun (before, after) => (before ++ further, after) := by
  induction text generalizing passed count with
  | nil => cases count <;> rfl
  | cons char rest ih =>
    cases count with
    | zero => rfl
    | succ count =>
      simp only [splitOnto]
      split
      · exact ih (char :: passed) _
      · rfl

theorem splitAt?_eq_some_iff {text before after : List Char} {offset : Nat} :
    splitAt? text offset = some (before, after) ↔
      text = before.reverse ++ after ∧ byteLength before.reverse = offset := by
  rw [splitAt?, splitOnto_eq_some_iff]
  constructor
  · rintro ⟨front, htext, rfl, hoffset⟩
    simpa using ⟨htext, hoffset⟩
  · rintro ⟨htext, hoffset⟩
    exact ⟨before.reverse, htext, by simp, hoffset⟩

/-- A slice is what stands between a front part and a back part of a text. -/
theorem slice?_eq_some_iff {text part : List Char} {start stop : Nat} :
    slice? text start stop = some part ↔
      ∃ front back, text = front ++ part ++ back ∧ byteLength front = start ∧
        start + byteLength part = stop := by
  constructor
  · intro h
    unfold slice? at h
    split at h
    · cases h
    next ordered =>
      cases hfront : splitAt? text start with
      | none => simp [hfront] at h
      | some cut =>
        obtain ⟨before, tail⟩ := cut
        cases hpart : splitAt? tail (stop - start) with
        | none => simp [hfront, hpart] at h
        | some cut =>
          obtain ⟨passed, back⟩ := cut
          have hreverse : passed.reverse = part := by simpa [hfront, hpart] using h
          obtain ⟨htext, hstart⟩ := splitAt?_eq_some_iff.mp hfront
          obtain ⟨htail, hsize⟩ := splitAt?_eq_some_iff.mp hpart
          rw [hreverse] at htail hsize
          exact ⟨before.reverse, back, by rw [htext, htail, List.append_assoc], hstart, by omega⟩
  · rintro ⟨front, back, htext, hstart, hstop⟩
    have hfront : splitAt? text start = some (front.reverse, part ++ back) :=
      splitAt?_eq_some_iff.mpr (by simpa [htext] using hstart)
    have hpart : splitAt? (part ++ back) (stop - start) = some (part.reverse, back) :=
      splitAt?_eq_some_iff.mpr (by simp; omega)
    simp [slice?, hfront, hpart, show ¬stop < start by omega]

/-! ### Boundaries -/

/-- A boundary within a stretch of a text cuts the stretch in two. -/
theorem IsBoundary.exists_cut {text done todo back : List Char} {offset : Nat}
    (boundary : IsBoundary text offset) (split : text = done ++ (todo ++ back))
    (lower : byteLength done ≤ offset) (upper : offset ≤ byteLength done + byteLength todo) :
    ∃ near far, todo = near ++ far ∧ byteLength done + byteLength near = offset := by
  obtain ⟨front, rest, htext, rfl⟩ := boundary
  -- Both `done` and `done ++ todo` are comparable with the front part up to the boundary.
  obtain ⟨near, rfl, hrest⟩ := exists_between (split.symm.trans htext) lower
  rw [byteLength_append] at upper
  obtain ⟨far, htodo, -⟩ := exists_between hrest.symm (by omega)
  exact ⟨near, far, htodo, (byteLength_append done near).symm⟩

/-! ### Tilings -/

/-- The stretches follow one another from an offset on, and each takes up some characters of a text,
all of which are taken up in the end. -/
inductive Spells : Nat → List (Nat × Nat) → List Char → Prop
  | nil (start : Nat) : Spells start [] []
  | cons {start : Nat} {spans : List (Nat × Nat)} {piece rest : List Char}
      (nonempty : piece ≠ []) (tail : Spells (start + byteLength piece) spans rest) :
      Spells start ((start, start + byteLength piece) :: spans) (piece ++ rest)

namespace Spells

variable {start : Nat} {spans : List (Nat × Nat)} {chars : List Char}

theorem append (first : Spells start spans chars) {more : List (Nat × Nat)} {further : List Char}
    (second : Spells (start + byteLength chars) more further) :
    Spells start (spans ++ more) (chars ++ further) := by
  induction first with
  | nil start => simpa [byteLength] using second
  | @cons start spans piece rest nonempty _ ih =>
    rw [byteLength_append, ← Nat.add_assoc] at second
    rw [List.cons_append, List.append_assoc]
    exact .cons nonempty (ih second)

/-- A tiling stays one when the text it spells begins elsewhere. -/
theorem shift (spelled : Spells start spans chars) (offset : Nat) :
    Spells (start + offset) (spans.map fun span => (span.1 + offset, span.2 + offset)) chars := by
  induction spelled with
  | nil start => exact .nil _
  | @cons start spans piece rest nonempty _ ih =>
    have moved : start + byteLength piece + offset = start + offset + byteLength piece := by omega
    rw [moved] at ih
    simpa only [List.map_cons, moved] using Spells.cons nonempty ih

/-- The stretches that are left when the first ones are taken away spell the rest of the text. -/
theorem drop {first : List (Nat × Nat)} (spelled : Spells start (first ++ spans) chars) :
    ∃ front back, chars = front ++ back ∧ Spells start first front ∧
      Spells (start + byteLength front) spans back := by
  induction first generalizing start chars with
  | nil => exact ⟨[], chars, rfl, .nil start, by simpa [byteLength] using spelled⟩
  | cons span first ih =>
    rw [List.cons_append] at spelled
    cases spelled with
    | @cons _ _ piece rest nonempty tail =>
      obtain ⟨front, back, rfl, taken, left⟩ := ih tail
      refine ⟨piece ++ front, back, by simp, .cons nonempty taken, ?_⟩
      rwa [byteLength_append, ← Nat.add_assoc]

/-- The first of some stretches begins where all of them begin, and the others begin where it
ends. -/
theorem cons_iff {span : Nat × Nat} :
    Spells start (span :: spans) chars ↔ ∃ piece rest, piece ≠ [] ∧ chars = piece ++ rest ∧
      span = (start, start + byteLength piece) ∧ Spells (start + byteLength piece) spans rest := by
  constructor
  · intro spelled
    cases spelled with
    | cons nonempty tail => exact ⟨_, _, nonempty, rfl, rfl, tail⟩
  · rintro ⟨piece, rest, nonempty, rfl, rfl, tail⟩
    exact .cons nonempty tail

/-- Stretches say themselves how many bytes they take up. -/
theorem byteLength_eq {other : Nat} {further : List Char} (first : Spells start spans chars)
    (second : Spells other spans further) : byteLength chars = byteLength further := by
  induction spans generalizing start other chars further with
  | nil =>
    cases first
    cases second
    rfl
  | cons span spans ih =>
    obtain ⟨piece, rest, -, rfl, extent, tail⟩ := cons_iff.mp first
    obtain ⟨twin, twinRest, -, rfl, twinExtent, twinTail⟩ := cons_iff.mp second
    obtain ⟨begins, ends⟩ := Prod.mk.inj (extent.symm.trans twinExtent)
    have same := ih tail twinTail
    simp only [byteLength_append]
    omega

/-- Stretches that are not none say themselves where they begin. -/
theorem place_eq {other : Nat} {further : List Char} (first : Spells start spans chars)
    (second : Spells other spans further) (nonempty : chars ≠ []) :
    start = other ∧ byteLength chars = byteLength further := by
  refine ⟨?_, first.byteLength_eq second⟩
  cases spans with
  | nil =>
    cases first
    exact absurd rfl nonempty
  | cons span spans =>
    obtain ⟨_, _, -, -, extent, -⟩ := cons_iff.mp first
    obtain ⟨_, _, -, -, twinExtent, -⟩ := cons_iff.mp second
    exact (Prod.mk.inj (extent.symm.trans twinExtent)).1

/-- Every stretch takes up at least one character. -/
theorem length_le (spelled : Spells start spans chars) : spans.length ≤ chars.length := by
  induction spelled with
  | nil => exact Nat.le_refl _
  | cons nonempty _ ih =>
    have positive := List.length_pos_iff.mpr nonempty
    simp only [List.length_cons, List.length_append]
    omega

theorem start_le (spelled : Spells start spans chars) : ∀ span ∈ spans, start ≤ span.1 := by
  induction spelled with
  | nil => simp
  | cons _ _ ih =>
    refine List.forall_mem_cons.mpr ⟨Nat.le_refl _, fun span member => ?_⟩
    exact Nat.le_trans (Nat.le_add_right ..) (ih span member)

theorem pairwise (spelled : Spells start spans chars) :
    spans.Pairwise fun first second => first.2 ≤ second.1 := by
  induction spelled with
  | nil => exact .nil
  | cons _ tail ih => exact .cons tail.start_le ih

/-- Two stretches are the same, or one of them begins where the other has ended. -/
theorem apart (spelled : Spells start spans chars) {first second : Nat × Nat}
    (one : first ∈ spans) (other : second ∈ spans) :
    first = second ∨ first.2 ≤ second.1 ∨ second.2 ≤ first.1 := by
  induction spelled with
  | nil => cases one
  | cons _ tail ih =>
    rcases List.mem_cons.mp one with rfl | one <;> rcases List.mem_cons.mp other with rfl | other
    · exact .inl rfl
    · exact .inr (.inl (tail.start_le _ other))
    · exact .inr (.inr (tail.start_le _ one))
    · exact ih one other

end Spells

/-- The stretches follow one another from an offset of a text to another one, none of them is empty,
and they begin and end between characters. -/
def Tiles (text : List Char) : Nat → List (Nat × Nat) → Nat → Prop
  | start, [], stop => start = stop ∧ IsBoundary text stop
  | start, (first, last) :: rest, stop =>
    first = start ∧ IsBoundary text first ∧ first < last ∧ Tiles text last rest stop

/-- Stretches that spell a part of a text tile it. -/
theorem Spells.tiles {start : Nat} {spans : List (Nat × Nat)} {chars : List Char}
    (spelled : Spells start spans chars) {text front back : List Char}
    (within : text = front ++ (chars ++ back)) (aligned : byteLength front = start) :
    Tiles text start spans (start + byteLength chars) := by
  induction spelled generalizing front with
  | nil start => exact ⟨rfl, front, back, within, aligned⟩
  | @cons start spans piece rest nonempty _ ih =>
    have proper := byteLength_pos nonempty
    have further : text = (front ++ piece) ++ (rest ++ back) := by simp [within]
    refine ⟨rfl, ⟨front, _, within, aligned⟩, by omega, ?_⟩
    rw [byteLength_append, ← Nat.add_assoc]
    exact ih further (by rw [byteLength_append, aligned])

/-- Stretches that tile a part of a text spell it. -/
theorem Tiles.exists_spells {text : List Char} {start stop : Nat} {spans : List (Nat × Nat)}
    (tiled : Tiles text start spans stop) :
    ∃ front chars back, text = front ++ (chars ++ back) ∧ byteLength front = start ∧
      start + byteLength chars = stop ∧ Spells start spans chars := by
  induction spans generalizing start with
  | nil =>
    obtain ⟨rfl, front, back, split, aligned⟩ := tiled
    exact ⟨front, [], back, by simpa using split, aligned, by simp [byteLength], .nil start⟩
  | cons span spans ih =>
    obtain ⟨first, last⟩ := span
    obtain ⟨rfl, boundary, proper, rest⟩ := tiled
    obtain ⟨front, chars, back, rfl, aligned, size, spelled⟩ := ih rest
    -- The first stretch lies between its own boundary and the one where the others begin.
    have split : front ++ (chars ++ back) = [] ++ (front ++ (chars ++ back)) := rfl
    obtain ⟨near, piece, rfl, cut⟩ := boundary.exists_cut split (Nat.zero_le _)
      (by rw [aligned]; simp only [byteLength]; omega)
    rw [byteLength_append] at aligned
    simp only [byteLength, Nat.zero_add] at cut
    have nonempty : piece ≠ [] := by
      rintro rfl
      simp only [byteLength] at aligned
      omega
    obtain rfl : last = first + byteLength piece := by omega
    refine ⟨near, piece ++ chars, back, by simp, cut, ?_, .cons nonempty spelled⟩
    rw [byteLength_append, ← Nat.add_assoc, size]

/-- For a whole text the two say the same. -/
theorem tiles_iff_spells {text : List Char} {spans : List (Nat × Nat)} :
    Tiles text 0 spans (byteLength text) ↔ Spells 0 spans text := by
  constructor
  · intro tiled
    obtain ⟨front, chars, back, split, aligned, size, spelled⟩ := tiled.exists_spells
    have noFront : front = [] := byteLength_eq_zero_iff.mp aligned
    have noBack : back = [] := by
      rw [split, byteLength_append, byteLength_append] at size
      exact byteLength_eq_zero_iff.mp (by omega)
    have whole : chars = text := by simp [split, noFront, noBack]
    rwa [whole] at spelled
  · intro spelled
    have within : text = [] ++ (text ++ []) := by simp
    simpa using spelled.tiles within rfl

end RuleLexer.Text
