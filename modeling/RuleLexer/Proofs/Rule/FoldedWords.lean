import RuleLexer.Proofs.Rule.Matching

/-!
# Words without regard to case

Where case does not matter, a word takes any text that differs from it in case only. Such a text
need not have as many bytes as the word, but the words are listed by their own bytes. So a word may
be listed before a longer one that begins like it: the Kelvin sign, which is a `k` of three bytes,
is listed before `kk`, and cuts it short. Whether this can happen to a vocabulary can be read off
its words.

## Main results

* `Vocabulary.matchAt_folded`: a match ends with a text that is a word up to case, there is none
  only where no such text stands, and it always ends with the longest of them just if longer words
  are listed first.
* `Vocabulary.listsLongerFirst_of_ascii`: they are if all words are in ASCII.
-/
namespace RuleLexer.Vocabulary

open Regex Text

/-- Two texts differ in case only. -/
def Folded (left right : List Char) : Prop :=
  List.Forall₂ (fun char other => other.toNat ∈ Unicode.Folding.orbit char.toNat) left right

/-- A piece of a text at a place is a word of the vocabulary up to case. -/
def FoldsAt (vocabulary : Vocabulary) (text : List Char) (offset : Nat) (piece : List Char) :
    Prop :=
  (∃ word ∈ vocabulary.words, Folded word.toList piece) ∧
    ∃ front back, text = front ++ (piece ++ back) ∧ byteLength front = offset

/-- Wherever a word is the beginning of a longer one up to case, a word that is the longer one up to
case is listed before it. -/
def ListsLongerFirst (vocabulary : Vocabulary) : Prop :=
  ∀ word ∈ vocabulary.words, ∀ longer ∈ vocabulary.words, ∀ front back,
    longer.toList = front ++ back → back ≠ [] → Folded word.toList front →
      ∃ same ∈ vocabulary.words, Folded same.toList longer.toList ∧
        precedes same.toList word.toList

variable {options : PatternOptions} {vocabulary : Vocabulary}
  {left middle right word piece text : List Char} {offset : Nat} {pattern : Pattern}

/-! ### Texts up to case -/

/-- Texts differ in case only if their characters have the same classes. -/
theorem folded_iff : Folded left right ↔
    left.map (fun char => Unicode.Folding.orbit char.toNat) =
      right.map (fun char => Unicode.Folding.orbit char.toNat) := by
  unfold Folded
  rw [← List.forall₂_eq_eq_eq, List.forall₂_map_left_iff, List.forall₂_map_right_iff]
  simp only [Unicode.Folding.mem_orbit_iff, eq_comm]

theorem Folded.refl (text : List Char) : Folded text text := folded_iff.mpr rfl

theorem Folded.symm (folded : Folded left right) : Folded right left :=
  folded_iff.mpr (folded_iff.mp folded).symm

theorem Folded.trans (first : Folded left middle) (second : Folded middle right) :
    Folded left right :=
  folded_iff.mpr ((folded_iff.mp first).trans (folded_iff.mp second))

theorem forall₂_takes_of_folds (folds : options.caseInsensitive = true) :
    List.Forall₂ (takes options · ·) word piece ↔ Folded word piece := by
  simp only [takes, folds, if_true, decide_eq_true_eq, Folded]

theorem standing_iff_of_folds (folds : options.caseInsensitive = true)
    (tail : vocabulary.tail = "") :
    vocabulary.Standing options text offset word piece ↔
      Folded word piece ∧
        ∃ front back, text = front ++ (piece ++ back) ∧ byteLength front = offset := by
  simp only [Standing, forall₂_takes_of_folds folds, mayEnd, tail]
  constructor
  · rintro ⟨front, back, whole, size, folded, -⟩
    exact ⟨folded, front, back, whole, size⟩
  · rintro ⟨folded, front, back, whole, size⟩
    exact ⟨front, back, whole, size, folded, rfl⟩

/-- A piece that is a word up to case is what a listed word takes. -/
theorem foldsAt_iff (folds : options.caseInsensitive = true) (tail : vocabulary.tail = "") :
    vocabulary.FoldsAt text offset piece ↔
      ∃ word ∈ vocabulary.sortedWords, vocabulary.Standing options text offset word piece := by
  simp only [standing_iff_of_folds folds tail, mem_sortedWords, FoldsAt]
  constructor
  · rintro ⟨⟨word, member, folded⟩, place⟩
    exact ⟨word.toList, ⟨word, member, rfl⟩, folded, place⟩
  · rintro ⟨_, ⟨word, member, rfl⟩, folded, place⟩
    exact ⟨⟨word, member, folded⟩, place⟩

/-- Of two pieces at one place the shorter one begins the longer one. -/
theorem exists_append_of_longer {other front back further rest : List Char}
    (whole : text = front ++ (piece ++ back)) (again : text = further ++ (other ++ rest))
    (place : byteLength front = byteLength further)
    (longer : byteLength piece < byteLength other) : ∃ more, other = piece ++ more ∧ more ≠ [] := by
  obtain ⟨-, same⟩ := append_inj_of_byteLength_eq (whole.symm.trans again) place
  rcases List.append_eq_append_iff.mp same with ⟨more, rfl, -⟩ | ⟨more, rfl, -⟩
  · refine ⟨more, rfl, ?_⟩
    rintro rfl
    simp at longer
  · rw [byteLength_append] at longer
    omega

/-- What the first of the listed words takes is the longest text if longer words are listed
first. -/
theorem byteLength_le_of_first (lists : vocabulary.ListsLongerFirst)
    (folds : options.caseInsensitive = true) (tail : vocabulary.tail = "") {first : List Char}
    {taken : List Char} (listed : first ∈ vocabulary.sortedWords)
    (standing : vocabulary.Standing options text offset first taken)
    (others : ∀ other ∈ vocabulary.sortedWords, ∀ further,
      vocabulary.Standing options text offset other further →
        other = first ∨ precedes first other)
    (stands : vocabulary.FoldsAt text offset piece) : byteLength piece ≤ byteLength taken := by
  by_contra shorter
  obtain ⟨taking, front, back, whole, size⟩ := (standing_iff_of_folds folds tail).mp standing
  obtain ⟨⟨longer, member, folded⟩, further, rest, again, also⟩ := stands
  obtain ⟨more, rfl, nonempty⟩ := exists_append_of_longer whole again (size.trans also.symm)
    (Nat.lt_of_not_le shorter)
  obtain ⟨word, known, rfl⟩ := mem_sortedWords.mp listed
  -- The longer word begins with what the first word is up to case.
  have beginning : Folded (longer.toList.take taken.length) taken :=
    List.forall₂_take_append _ _ _ folded
  have ending : Folded (longer.toList.drop taken.length) more :=
    List.forall₂_drop_append _ _ _ folded
  obtain ⟨same, among, alike, before⟩ := lists word known longer member _ _
    (List.take_append_drop taken.length longer.toList).symm
    (fun none => nonempty (by simpa [none, Folded] using ending)) (taking.trans beginning.symm)
  have fits : vocabulary.Standing options text offset same.toList _ :=
    (standing_iff_of_folds folds tail).mpr ⟨alike.trans folded, further, rest, again, also⟩
  rcases others same.toList (mem_sortedWords.mpr ⟨same, among, rfl⟩) _ fits with equal | after
  · exact not_precedes_self (equal ▸ before)
  · exact not_precedes_self (precedes_trans before after)

/-- If all of a longer word is taken, the word that takes it is listed before its beginnings. -/
theorem precedes_of_covers (folds : options.caseInsensitive = true) (tail : vocabulary.tail = "")
    {first taken front back : List Char} {longer : List Char}
    (standing : vocabulary.Standing options longer 0 first taken)
    (others : ∀ other ∈ vocabulary.sortedWords, ∀ further,
      vocabulary.Standing options longer 0 other further → other = first ∨ precedes first other)
    (covers : byteLength longer ≤ byteLength taken) (listed : word ∈ vocabulary.sortedWords)
    (whole : longer = front ++ back) (nonempty : back ≠ []) (folded : Folded word front) :
    Folded first longer ∧ precedes first word := by
  obtain ⟨taking, start, rest, split, size⟩ := (standing_iff_of_folds folds tail).mp standing
  obtain rfl := byteLength_eq_zero_iff.mp size
  have all : longer = taken := by
    have total := congrArg byteLength split
    rw [List.nil_append, byteLength_append] at total
    have drained : rest = [] := byteLength_eq_zero_iff.mp (by omega)
    simpa [drained] using split
  subst all
  refine ⟨taking, ?_⟩
  have fits : vocabulary.Standing options longer 0 word front :=
    (standing_iff_of_folds folds tail).mpr ⟨folded, [], back, whole, rfl⟩
  refine (others word listed front fits).resolve_left ?_
  -- One word cannot be both the longer text and its beginning.
  rintro rfl
  have lengths : longer.length = front.length := taking.length_eq.symm.trans folded.length_eq
  rw [whole, List.length_append] at lengths
  exact nonempty (List.length_eq_zero_iff.mp (by omega))

/-- Without regard to case a match ends with a text that is a word of the vocabulary up to case, and
there is none only where no such text stands. It always ends with the longest of these texts just if
the vocabulary lists longer words first. -/
theorem matchAt_folded (vocabulary : Vocabulary) (options : PatternOptions)
    (nonempty : vocabulary.words ≠ []) (lead : vocabulary.lead = "") (tail : vocabulary.tail = "")
    (folds : options.caseInsensitive = true)
    (compiled : Pattern.compile options vocabulary.pattern = .ok pattern) :
    (∀ text offset, IsBoundary text offset →
      ∃ result, pattern.matchAt text offset = .ok result ∧
        (result = none ↔ ∀ piece, ¬vocabulary.FoldsAt text offset piece) ∧
        ∀ found, result = some found → ∃ piece, vocabulary.FoldsAt text offset piece ∧
          found.stop = offset + byteLength piece) ∧
    ((∀ text offset found, pattern.matchAt text offset = .ok (some found) →
        ∀ piece, vocabulary.FoldsAt text offset piece →
          offset + byteLength piece ≤ found.stop) ↔
      vocabulary.ListsLongerFirst) := by
  rw [compile_pattern nonempty lead (.inl tail)] at compiled
  split at compiled
  · cases compiled
  cases compiled
  have place {text : List Char} {offset : Nat} (boundary : IsBoundary text offset) :=
    exists_matchAt vocabulary options vocabulary.pattern boundary
  refine ⟨fun text offset boundary => ?_, fun longest => ?_, fun lists => ?_⟩
  · obtain ⟨result, matched, silent, first⟩ := place boundary
    refine ⟨result, matched, ?_, fun found known => ?_⟩
    · rw [silent]
      simp only [foldsAt_iff folds tail, not_exists, not_and]
      exact ⟨fun none piece word listed => none word listed piece,
        fun none word listed piece => none piece word listed⟩
    · obtain ⟨word, listed, piece, standing, stop, -⟩ := first found known
      exact ⟨piece, (foldsAt_iff folds tail).mpr ⟨word, listed, standing⟩, stop⟩
  · intro word member longer also front back whole rest folded
    -- In the text that is the longer word itself all of it has to be taken.
    have stands : vocabulary.FoldsAt longer.toList 0 longer.toList :=
      ⟨⟨longer, also, .refl _⟩, [], [], (List.append_nil _).symm, rfl⟩
    have starts : IsBoundary longer.toList 0 := ⟨[], longer.toList, rfl, rfl⟩
    obtain ⟨result, matched, silent, first⟩ := place starts
    cases result with
    | none =>
      obtain ⟨word, listed, standing⟩ := (foldsAt_iff folds tail).mp stands
      exact absurd standing (silent.mp rfl word listed _)
    | some found =>
      obtain ⟨_, listed, taken, standing, stop, others⟩ := first found rfl
      obtain ⟨same, among, rfl⟩ := mem_sortedWords.mp listed
      have covers := longest _ 0 found matched _ stands
      rw [stop] at covers
      exact ⟨same, among, precedes_of_covers folds tail standing others
        (Nat.le_of_add_le_add_left covers) (mem_sortedWords.mpr ⟨word, member, rfl⟩) whole rest
        folded⟩
  · intro text offset found matched piece stands
    have ⟨_, front, back, whole, size⟩ := stands
    obtain ⟨result, again, -, first⟩ := place ⟨front, piece ++ back, whole, size⟩
    rw [again] at matched
    obtain ⟨word, listed, taken, standing, stop, others⟩ := first found (Except.ok.inj matched)
    rw [stop]
    exact Nat.add_le_add_left
      (byteLength_le_of_first lists folds tail listed standing others stands) _

/-- Where every character of a word is one byte, longer words are listed first. -/
theorem listsLongerFirst_of_ascii
    (ascii : ∀ word ∈ vocabulary.words, ∀ char ∈ word.toList, char.utf8Size = 1) :
    vocabulary.ListsLongerFirst := by
  have length_eq (text : List Char) (single : ∀ char ∈ text, char.utf8Size = 1) :
      byteLength text = text.length := by
    induction text with
    | nil => rfl
    | cons char rest ih =>
      obtain ⟨first, later⟩ := List.forall_mem_cons.mp single
      rw [byteLength, first, ih later, List.length_cons, Nat.add_comm]
  intro word member longer also front back whole nonempty folded
  refine ⟨longer, also, .refl _, precedes_iff.mpr (.inl ?_)⟩
  have lengths := List.length_pos_iff.mpr nonempty
  rw [length_eq _ (ascii word member), length_eq _ (ascii longer also), whole, List.length_append,
    folded.length_eq]
  omega

/-- The long s is an `s` of two bytes. -/
theorem matchAt_folded_of_long_s :
    let vocabulary : Vocabulary := { words := ["in", "insert"] }
    let options : PatternOptions := { caseInsensitive := true }
    vocabulary.words ≠ [] ∧ vocabulary.lead = "" ∧ vocabulary.tail = "" ∧
      options.caseInsensitive = true ∧
      ∃ pattern, Pattern.compile options vocabulary.pattern = .ok pattern ∧
        ∃ found, pattern.matchAt ['I', 'n', 'ſ', 'e', 'R', 't', 's'] 0 = .ok (some found) ∧
          found.stop = 7 := by
  intro vocabulary options
  have nonempty : vocabulary.words ≠ [] := List.cons_ne_nil _ _
  obtain ⟨pattern, compiled, -⟩ : ∃ pattern, Pattern.compile options vocabulary.pattern =
      .ok pattern ∧ (fun _ => true) pattern :=
    Pattern.exists_compile (toList_pattern _) rfl (by decide +kernel)
  refine ⟨nonempty, rfl, rfl, rfl, pattern, compiled, ?_⟩
  obtain ⟨everywhere, longest⟩ := matchAt_folded vocabulary options nonempty rfl rfl rfl compiled
  have lists : vocabulary.ListsLongerFirst := listsLongerFirst_of_ascii (by
    simp only [vocabulary, List.forall_mem_cons, String.reduceToList, List.not_mem_nil,
      IsEmpty.forall_iff, implies_true]
    decide)
  let text := ['I', 'n', 'ſ', 'e', 'R', 't', 's']
  have stands : vocabulary.FoldsAt text 0 ['I', 'n', 'ſ', 'e', 'R', 't'] :=
    ⟨⟨"insert", by simp [vocabulary], by simp [Folded]; decide +kernel⟩, [], ['s'], rfl, rfl⟩
  obtain ⟨result, matched, silent, ends⟩ := everywhere text 0 ⟨[], text, rfl, rfl⟩
  cases result with
  | none => exact absurd stands (silent.mp rfl _)
  | some found =>
    refine ⟨found, matched, Nat.le_antisymm ?_ (longest.mpr lists _ 0 found matched _ stands)⟩
    obtain ⟨piece, ⟨⟨word, member, folded⟩, front, back, whole, size⟩, stop⟩ := ends found rfl
    obtain rfl := byteLength_eq_zero_iff.mp size
    have cut : piece = text.take word.toList.length := by
      rw [whole, folded.length_eq]
      simp
    rw [stop, cut]
    simp only [vocabulary, List.mem_cons, List.not_mem_nil, or_false] at member
    rcases member with rfl | rfl <;> decide

/-- The Kelvin sign is a `k` of three bytes, so it is listed before `kk` and cuts it short. -/
theorem exists_longer_word_missed :
    let vocabulary : Vocabulary := { words := ["\u212a", "kk"] }
    ∃ pattern found, Pattern.compile { caseInsensitive := true } vocabulary.pattern = .ok pattern ∧
      pattern.matchAt ['k', 'k'] 0 = .ok (some found) ∧ found.stop = 1 ∧
      vocabulary.FoldsAt ['k', 'k'] 0 ['k', 'k'] := by
  intro vocabulary
  obtain ⟨pattern, compiled, matched⟩ : ∃ pattern,
      Pattern.compile { caseInsensitive := true } vocabulary.pattern = .ok pattern ∧
        pattern.matchAt ['k', 'k'] 0 = .ok (some ⟨1, []⟩) := by
    let check (pattern : Pattern) : Bool := pattern.matchAt ['k', 'k'] 0 = .ok (some ⟨1, []⟩)
    have found : ∃ pattern, Pattern.compile { caseInsensitive := true } vocabulary.pattern =
        .ok pattern ∧ check pattern :=
      Pattern.exists_compile (toList_pattern vocabulary) rfl (by decide +kernel)
    simpa [check] using found
  refine ⟨pattern, _, compiled, matched, rfl, ⟨"kk", by simp [vocabulary], .refl _⟩, [], [], ?_⟩
  exact ⟨rfl, rfl⟩

end RuleLexer.Vocabulary
