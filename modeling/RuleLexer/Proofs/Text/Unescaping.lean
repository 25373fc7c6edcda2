import RuleLexer.Proofs.Number.Digits
import RuleLexer.Text.Quoted

/-!
# Escaped text that is read back

A backslash begins an escape wherever it stands, and what follows it tells where the escape ends: a
sign of one character, or a number between braces. So escaped text can be read from left to right,
without knowing which of the characters that need no escape were given one, and this makes the
reader the same for all styles of quoting.

## Main results

* `unescape?_escape`: escaped text is read as the text, whatever the style.
* `newline_notMem_escape`: escaped text stays on one line.
-/
namespace RuleLexer.Text

/-- The character that a sign after a backslash stands for. -/
def signMeaning? : Char → Option Char
  | '0' => some '\x00'
  | 't' => some '\t'
  | 'r' => some '\r'
  | 'n' => some '\n'
  | '\\' => some '\\'
  | '"' => some '"'
  | '\x27' => some '\x27'
  | _ => none

/-- Reads escaped text. Inside of a number the digits so far are given. -/
def unescapeFrom? : (digits : Option (List Char)) → List Char → Option (List Char)
  | none, [] => some []
  | some _, [] => none
  | some digits, char :: rest =>
    if char = '\x7d' then do
      let value ← Number.ofDigits? 16 digits
      (unescapeFrom? none rest).map (Char.ofNat value :: ·)
    else unescapeFrom? (some (digits ++ [char])) rest
  | none, '\\' :: 'u' :: '\x7b' :: rest => unescapeFrom? (some []) rest
  | none, '\\' :: sign :: rest => do
    let char ← signMeaning? sign
    (unescapeFrom? none rest).map (char :: ·)
  | none, char :: rest => (unescapeFrom? none rest).map (char :: ·)

/-- The text that escaped text shows. -/
def unescape? (escaped : List Char) : Option (List Char) := unescapeFrom? none escaped

variable {style : QuoteStyle} {isFirst : Bool} {char : Char} {rest : List Char}

/-! ### Single characters -/

/-- A character is shown by itself, by a sign or by its number. -/
theorem escapeChar_cases (style : QuoteStyle) (isFirst : Bool) (char : Char) :
    (escapeChar style isFirst char = [char] ∧ char ≠ '\\' ∧ char ≠ '\n') ∨
      (∃ sign, escapeChar style isFirst char = ['\\', sign] ∧ signMeaning? sign = some char) ∨
      escapeChar style isFirst char = numberEscape char := by
  unfold escapeChar
  split
  · exact .inr (.inl ⟨'0', rfl, rfl⟩)
  · exact .inr (.inl ⟨'t', rfl, rfl⟩)
  · exact .inr (.inl ⟨'r', rfl, rfl⟩)
  · exact .inr (.inl ⟨'n', rfl, rfl⟩)
  · exact .inr (.inl ⟨'\\', rfl, rfl⟩)
  next noNewline noBackslash =>
    split
    next quoted =>
      rcases quoted with ⟨rfl, -⟩ | ⟨rfl, -⟩
      · exact .inr (.inl ⟨'"', rfl, rfl⟩)
      · exact .inr (.inl ⟨'\x27', rfl, rfl⟩)
    next =>
      split
      · exact .inr (.inr rfl)
      · split
        · exact .inl ⟨rfl, noBackslash, noNewline⟩
        · exact .inr (.inr rfl)

theorem digit_of_mem_number {digit : Char} (written : digit ∈ Nat.toDigits 16 char.toNat) :
    digit ≠ '\x7d' ∧ digit ≠ '\n' := by
  obtain ⟨value, below, rfl⟩ := Number.exists_of_mem_toDigits (by decide) written
  have known : ∀ value < 16, Nat.digitChar value ≠ '\x7d' ∧ Nat.digitChar value ≠ '\n' := by decide
  exact known value below

theorem newline_notMem_escapeChar : '\n' ∉ escapeChar style isFirst char := by
  rcases escapeChar_cases style isFirst char with
    ⟨plain, -, proper⟩ | ⟨sign, signed, meaning⟩ | number
  · simpa [plain] using proper.symm
  · have proper : sign ≠ '\n' := by
      rintro rfl
      cases meaning
    simpa [signed] using proper.symm
  · intro member
    simp only [number, numberEscape, List.mem_append, List.mem_cons, List.not_mem_nil] at member
    rcases member with (same | written) | same
    · simp at same
    · exact (digit_of_mem_number written).2 rfl
    · simp at same

/-! ### Reading -/

theorem unescapeFrom?_digits {digits more : List Char} (proper : ∀ digit ∈ more, digit ≠ '\x7d') :
    unescapeFrom? (some digits) (more ++ '\x7d' :: rest) =
      (Number.ofDigits? 16 (digits ++ more)).bind fun value =>
        (unescapeFrom? none rest).map (Char.ofNat value :: ·) := by
  induction more generalizing digits with
  | nil => simp [unescapeFrom?]
  | cons digit more ih =>
    have other := proper digit List.mem_cons_self
    rw [List.cons_append, unescapeFrom?, if_neg other,
      ih fun digit member => proper digit (List.mem_cons_of_mem _ member)]
    simp

/-- What shows a character is read as this character, whatever follows it. -/
theorem unescapeFrom?_escapeChar :
    unescapeFrom? none (escapeChar style isFirst char ++ rest) =
      (unescapeFrom? none rest).map (char :: ·) := by
  rcases escapeChar_cases style isFirst char with
    ⟨plain, proper, -⟩ | ⟨sign, signed, meaning⟩ | number
  · -- Without a backslash at the front only the last clause of the reader applies.
    rw [plain, List.singleton_append]
    conv => lhs; unfold unescapeFrom?
    split <;> simp_all
  · have noNumber : sign ≠ 'u' := by
      rintro rfl
      cases meaning
    rw [signed]
    simp [unescapeFrom?, meaning, noNumber]
  · have value := Number.ofDigits?_toDigits (by decide : 1 < 16) (by decide) char.toNat
    rw [number, numberEscape, List.append_assoc]
    change unescapeFrom? (some []) (Nat.toDigits 16 char.toNat ++ '\x7d' :: rest) = _
    rw [unescapeFrom?_digits fun digit written => (digit_of_mem_number written).1, List.nil_append,
      value]
    simp

theorem unescapeFrom?_flatMap {text : List Char} :
    unescapeFrom? none (text.flatMap (escapeChar style false)) = some text := by
  induction text with
  | nil => rfl
  | cons char rest ih => rw [List.flatMap_cons, unescapeFrom?_escapeChar, ih, Option.map_some]

/-- Escaped text is read as the text, whatever the style. -/
theorem unescape?_escape (style : QuoteStyle) (text : List Char) :
    unescape? (escape style text) = some text := by
  cases text with
  | nil => rfl
  | cons first rest =>
    -- The first character is escaped as such, but it is read like any other.
    rw [escape, unescape?, unescapeFrom?_escapeChar, unescapeFrom?_flatMap, Option.map_some]

theorem escape_injective (style : QuoteStyle) : Function.Injective (escape style) := by
  intro text other same
  have read := unescape?_escape style text
  rw [same, unescape?_escape] at read
  exact (Option.some.inj read).symm

/-- Escaped text stays on one line. -/
theorem newline_notMem_escape (style : QuoteStyle) (text : List Char) :
    '\n' ∉ escape style text := by
  cases text with
  | nil => simp [escape]
  | cons first rest =>
    rw [escape, List.mem_append, List.mem_flatMap]
    rintro (member | ⟨char, -, member⟩)
    · exact newline_notMem_escapeChar member
    · exact newline_notMem_escapeChar member

end RuleLexer.Text
