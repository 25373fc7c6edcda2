import RuleLexer.Json.Reader
import RuleLexer.Json.Writer
import RuleLexer.Proofs.Number.Digits

/-!
# Values that are read back

A value that has been written without blanks is read as the same value, if it holds nothing that
cannot be written. What follows a value matters for numbers alone: a number goes on as long as there
are digits, so something else has to end it, which a comma and the closing brackets do.

A reader that follows the nesting of a value calls itself on the parts of what is left, so the proof
is by induction on the room that it is given. The room is enough if it exceeds the length of what is
read, since every part is shorter than the whole by the sign that stands before or after it.

## Main result

`read_write`: a value that can be written is read back from what is written.
-/
namespace RuleLexer.Json

/-- A value that can be written: no half of a surrogate pair, and only natural numbers of 64
bits. -/
inductive Value.IsWritable : Value → Prop
  | null : IsWritable .null
  | bool (value : Bool) : IsWritable (.bool value)
  | natural {value : Nat} (small : value ≤ maxNatural) : IsWritable (.ofNat value)
  | string (chars : List Char) : IsWritable (.ofChars chars)
  | array {items : List Value} (parts : ∀ item ∈ items, item.IsWritable) : IsWritable (.array items)
  | object {members : List (Text × Value)}
      (keys : ∀ member ∈ members, ∃ chars, member.1 = .valid chars)
      (parts : ∀ member ∈ members, member.2.IsWritable) : IsWritable (.object members)

/-- What a number before it does not go on with. -/
def EndsNumber (text : List Char) : Prop :=
  ∀ char ∈ text.head?, isDigit char = false ∧ char ≠ '.' ∧ char ≠ 'e' ∧ char ≠ 'E'

variable {room : Nat} {rest : List Char}

/-! ### Strings -/

theorem readUnits_escape {sign char : Char} (short : shortEscape? sign = some char) :
    readUnits ('\\' :: sign :: rest) =
      (readUnits rest).map fun (units, rest) => (.char char :: units, rest) := by
  have noNumber : sign ≠ 'u' := by
    rintro rfl
    cases short
  -- A sign other than `u` begins no number, so the clause for short escapes applies.
  rw [readUnits.eq_3 _ _ (by simp_all), short]
  cases readUnits rest <;> rfl

theorem readUnits_number {value : Nat} (control : value < 0x20) :
    readUnits (['\\', 'u', '0', '0'] ++ hexPair value ++ rest) =
      (readUnits rest).map fun (units, rest) => (.char (Char.ofNat value) :: units, rest) := by
  have known : ∀ value < 0x20,
      RuleLexer.Number.ofDigits? 16 (['0', '0'] ++ hexPair value) = some value := by decide
  have digits := known value control
  simp only [hexPair, List.cons_append, List.nil_append] at digits ⊢
  simp only [readUnits, digits]
  -- A control character is far below the halves of surrogate pairs.
  have noHigh : ¬(0xD800 ≤ value ∧ value < 0xDC00) := by omega
  have noLow : ¬(0xDC00 ≤ value ∧ value < 0xE000) := by omega
  rw [Option.bind_eq_bind, Option.bind_some, if_neg noHigh, if_neg noLow]
  cases readUnits rest <;> rfl

theorem readUnits_writeChar (char : Char) :
    readUnits (writeChar char ++ rest) =
      (readUnits rest).map fun (units, rest) => (.char char :: units, rest) := by
  unfold writeChar
  split
  any_goals exact readUnits_escape rfl
  next noQuote noBackslash _ _ _ _ _ =>
    split
    next control =>
      rw [readUnits_number control, Char.ofNat_toNat]
    next visible =>
      rw [List.singleton_append, readUnits.eq_4 _ _ (by simp_all) (by simp_all) (by simp_all)]
      rw [if_neg (by simp_all)]
      cases readUnits rest <;> rfl

theorem readUnits_flatMap (chars rest : List Char) :
    readUnits (chars.flatMap writeChar ++ '"' :: rest) = some (chars.map .char, rest) := by
  induction chars with
  | nil => simp [readUnits]
  | cons char chars ih => simp [readUnits_writeChar, ih]

theorem joinPairs_map_char (chars : List Char) : joinPairs (chars.map .char) = .valid chars := by
  induction chars with
  | nil => rfl
  | cons char chars ih => simp [joinPairs, ih, Text.cons]

/-- A string is read after its opening quote. -/
theorem readString_flatMap (chars rest : List Char) :
    readString (chars.flatMap writeChar ++ '"' :: rest) = some (.valid chars, rest) := by
  simp [readString, readUnits_flatMap, joinPairs_map_char]

/-! ### Numbers -/

theorem isDigit_of_mem_decimal {value : Nat} {char : Char}
    (written : char ∈ Nat.toDigits 10 value) : isDigit char := by
  obtain ⟨digit, below, rfl⟩ := RuleLexer.Number.exists_of_mem_toDigits (by decide) written
  have known : ∀ digit < 10, isDigit digit.digitChar := by decide
  exact known digit below

theorem takeWhile_decimal (value : Nat) (ends : EndsNumber rest) :
    (Nat.toDigits 10 value ++ rest).takeWhile isDigit = Nat.toDigits 10 value ∧
      (Nat.toDigits 10 value ++ rest).dropWhile isDigit = rest := by
  have digits : ∀ char ∈ Nat.toDigits 10 value, isDigit char := fun _ => isDigit_of_mem_decimal
  rw [List.takeWhile_append_of_pos digits, List.dropWhile_append_of_pos digits]
  cases rest with
  | nil => simp
  | cons char rest => simp [(ends char rfl).1]

theorem readFraction_of_endsNumber (ends : EndsNumber rest) :
    readFraction rest = some ([], rest) := by
  unfold readFraction
  split
  · exact absurd rfl (ends _ rfl).2.1
  · rfl

theorem readExponent_of_endsNumber (ends : EndsNumber rest) :
    readExponent rest = some (none, rest) := by
  cases rest with
  | nil => rfl
  | cons char rest =>
    obtain ⟨-, -, small, capital⟩ := ends char rfl
    simp [readExponent, small, capital]

/-- A natural number begins with a digit. -/
theorem exists_cons_toDigits (value : Nat) :
    ∃ first tail, Nat.toDigits 10 value = first :: tail ∧ isDigit first := by
  obtain ⟨first, tail, same⟩ := List.exists_cons_of_ne_nil (@Nat.toDigits_ne_nil value 10)
  exact ⟨first, tail, same, isDigit_of_mem_decimal (by rw [same]; exact List.mem_cons_self)⟩

theorem readNumber_toDigits {value : Nat} (small : value ≤ maxNatural) (ends : EndsNumber rest) :
    readNumber (Nat.toDigits 10 value ++ rest) = some (.natural value, rest) := by
  obtain ⟨taken, left⟩ := takeWhile_decimal value ends
  have unsigned : readNumber (Nat.toDigits 10 value ++ rest) =
      readUnsigned false (Nat.toDigits 10 value ++ rest) := by
    obtain ⟨first, tail, same, digit⟩ := exists_cons_toDigits value
    have noSign : first ≠ '-' := by
      rintro rfl
      cases digit
    simp [readNumber, same, noSign]
  have noPadding :
      ¬((Nat.toDigits 10 value).head? = some '0' ∧ 1 < (Nat.toDigits 10 value).length) := by
    rintro ⟨zero, long⟩
    rcases Nat.eq_zero_or_pos value with rfl | positive
    · simp at long
    · exact Number.head?_toDigits_ne_zero (by decide) (by decide) positive zero
  have number : numberOf false (Nat.toDigits 10 value) [] none = .natural value := by
    simp [numberOf, digitsValue, Number.ofDigits?_toDigits, small]
  rw [unsigned, readUnsigned, taken, left]
  simp only [List.isEmpty_iff, Nat.toDigits_ne_nil, noPadding, or_self, if_false,
    readFraction_of_endsNumber ends, readExponent_of_endsNumber ends, number, Option.bind_eq_bind,
    Option.bind_some, Option.pure_def]

/-! ### Values -/

theorem isBlank_of_isDigit {char : Char} (digit : isDigit char) : isBlank char = false := by
  rw [← Bool.not_eq_true]
  intro blank
  simp only [isBlank, Bool.or_eq_true, decide_eq_true_eq] at blank
  rcases blank with ((rfl | rfl) | rfl) | rfl <;> cases digit

theorem dropBlanks_cons {first : Char} (sign : isBlank first = false) (tail : List Char) :
    dropBlanks (first :: tail) = first :: tail := by
  simp [dropBlanks, sign]

/-- What is written for a value begins with a sign that shows that there is one. -/
theorem exists_head_write {value : Value} (writable : value.IsWritable) :
    ∃ first tail, write value = first :: tail ∧ isBlank first = false ∧ first ≠ ']' := by
  cases writable with
  | null => exact ⟨'n', _, rfl, by decide, by decide⟩
  | bool value => cases value <;> exact ⟨_, _, rfl, by decide, by decide⟩
  | @natural value =>
    obtain ⟨first, tail, same, digit⟩ := exists_cons_toDigits value
    refine ⟨first, tail, same, isBlank_of_isDigit digit, ?_⟩
    rintro rfl
    cases digit
  | string chars => exact ⟨'"', _, rfl, by decide, by decide⟩
  | @array items =>
    cases items <;> exact ⟨'[', _, rfl, by decide, by decide⟩
  | @object members =>
    cases members with
    | nil => exact ⟨'\x7b', _, rfl, by decide, by decide⟩
    | cons member members => exact ⟨'\x7b', _, rfl, by decide, by decide⟩

theorem readValue_of_isDigit {first : Char} (digit : isDigit first) (tail : List Char) :
    readValue (room + 1) (first :: tail) =
      (readNumber (first :: tail)).map fun (number, rest) => (.number number, rest) := by
  rw [readValue, dropBlanks_cons (isBlank_of_isDigit digit)]
  split
  -- The first sign of every other kind of value is no digit.
  any_goals
    rename_i same
    obtain rfl := (List.cons.inj same).1
    cases digit
  rfl

/-- The parts of a collection after the first one. -/
def furtherParts (parts : List (List Char)) : List Char := parts.flatMap (',' :: ·)

theorem furtherParts_items (item : Value) (items : List Value) :
    furtherParts (writeItems .compact (item :: items)) =
      ',' :: (write item ++ furtherParts (writeItems .compact items)) := rfl

theorem furtherParts_members (key : List Char) (value : Value) (members : List (Text × Value)) :
    furtherParts (writeMembers .compact ((.valid key, value) :: members)) =
      ',' :: (writeString key ++ (':' :: (write value ++
        furtherParts (writeMembers .compact members)))) := by
  simp [furtherParts, write, writeMembers, writeText, Layout.colon]

theorem write_array (item : Value) (items : List Value) :
    write (.array (item :: items)) =
      '[' :: (write item ++ (furtherParts (writeItems .compact items) ++ [']'])) := by
  simp [write, writeWith, writeItems, Layout.enclose, Layout.lineStart, Layout.inner, furtherParts]

theorem write_object (key : List Char) (value : Value) (members : List (Text × Value)) :
    write (.object ((.valid key, value) :: members)) =
      '\x7b' :: (writeString key ++ (':' :: (write value ++
        (furtherParts (writeMembers .compact members) ++ ['\x7d'])))) := by
  simp [write, writeWith, writeMembers, writeText, Layout.enclose, Layout.lineStart, Layout.inner,
    Layout.colon, furtherParts]

theorem endsNumber_furtherParts {closing : Char} (closes : closing = ']' ∨ closing = '\x7d')
    (parts : List (List Char)) (rest : List Char) :
    EndsNumber (furtherParts parts ++ closing :: rest) := by
  cases parts with
  | nil =>
    rintro char ⟨⟩
    rcases closes with rfl | rfl <;> decide
  | cons part parts =>
    rintro char ⟨⟩
    decide

/-- The values, items and members that some room is enough for are read back. -/
structure ReadsBack (room : Nat) : Prop where
  value {value : Value} {rest : List Char} : value.IsWritable → (write value).length < room →
    EndsNumber rest → readValue room (write value ++ rest) = some (value, rest)
  items {item : Value} {items : List Value} (rest : List Char) :
    (Value.array (item :: items)).IsWritable → (write (.array (item :: items))).length ≤ room →
    readItems room (write item ++ (furtherParts (writeItems .compact items) ++ ']' :: rest)) =
      some (item :: items, rest)
  members {key : List Char} {value : Value} {members : List (Text × Value)} (rest : List Char) :
    (Value.object ((.valid key, value) :: members)).IsWritable →
    (write (.object ((.valid key, value) :: members))).length ≤ room →
    readMembers room (writeString key ++ (':' :: (write value ++
      (furtherParts (writeMembers .compact members) ++ '\x7d' :: rest)))) =
      some ((.valid key, value) :: members, rest)

theorem readsBack_zero : ReadsBack 0 where
  value := by intro _ _ _ short; cases short
  items := by intro _ _ _ _ short; cases short
  members := by intro _ _ _ _ _ short; cases short

theorem ReadsBack.readValue_succ (inner : ReadsBack room) {value : Value}
    (writable : value.IsWritable) (short : (write value).length < room + 1)
    (ends : EndsNumber rest) :
    readValue (room + 1) (write value ++ rest) = some (value, rest) := by
  cases writable with
  | null => rfl
  | bool value => cases value <;> rfl
  | @natural value small =>
    obtain ⟨first, tail, same, digit⟩ := exists_cons_toDigits value
    have read := readNumber_toDigits small ends
    change readValue (room + 1) (Nat.toDigits 10 value ++ rest) = _
    rw [same, List.cons_append] at read ⊢
    rw [readValue_of_isDigit digit, read]
    rfl
  | string chars =>
    have read := readString_flatMap chars rest
    change readValue (room + 1) (writeString chars ++ rest) = _
    simp only [writeString, List.cons_append, List.append_assoc, List.nil_append]
    rw [readValue, dropBlanks_cons (by decide)]
    simp [read, Value.ofChars]
  | @array items parts =>
    cases items with
    | nil => rfl
    | cons item items =>
      have read := inner.items rest (.array parts) (Nat.le_of_lt_succ short)
      obtain ⟨first, tail, same, noBlank, noClose⟩ :=
        exists_head_write (parts item List.mem_cons_self)
      rw [write_array]
      simp only [List.cons_append, List.append_assoc, List.nil_append]
      -- The first item does not begin with the bracket that would close an empty array.
      rw [same, List.cons_append] at read ⊢
      rw [readValue, dropBlanks_cons (by decide)]
      simp [dropBlanks_cons noBlank, noClose, read]
  | @object members keys parts =>
    cases members with
    | nil => rfl
    | cons member members =>
      obtain ⟨text, value⟩ := member
      obtain ⟨key, ⟨⟩⟩ := keys _ List.mem_cons_self
      have read := inner.members rest (.object keys parts) (Nat.le_of_lt_succ short)
      rw [write_object]
      simp only [writeString, List.cons_append, List.append_assoc, List.nil_append] at read ⊢
      rw [readValue, dropBlanks_cons (by decide)]
      simp [dropBlanks_cons (by decide : isBlank '"' = false), read]

theorem ReadsBack.readItems_succ (inner : ReadsBack room) {item : Value} {items : List Value}
    (rest : List Char) (writable : (Value.array (item :: items)).IsWritable)
    (short : (write (.array (item :: items))).length ≤ room + 1) :
    readItems (room + 1)
        (write item ++ (furtherParts (writeItems .compact items) ++ ']' :: rest)) =
      some (item :: items, rest) := by
  cases writable with
  | array parts =>
    obtain ⟨first, further⟩ := List.forall_mem_cons.mp parts
    have ends := endsNumber_furtherParts (.inl rfl) (writeItems .compact items) rest
    simp only [write_array, List.length_cons, List.length_append, List.length_nil] at short
    rw [readItems, inner.value first (by omega) ends]
    cases items with
    | nil => rfl
    | cons next items =>
      -- The items that are left make up a shorter array, so the room is enough for them.
      have read := inner.items rest (.array further) (by
        simp only [furtherParts_items, List.length_cons, List.length_append] at short
        simp only [write_array, List.length_cons, List.length_append, List.length_nil]
        omega)
      simp only [furtherParts_items, List.cons_append, List.append_assoc]
      simp [dropBlanks_cons (by decide : isBlank ',' = false), read]

theorem ReadsBack.readMembers_succ (inner : ReadsBack room) {key : List Char} {value : Value}
    {members : List (Text × Value)} (rest : List Char)
    (writable : (Value.object ((.valid key, value) :: members)).IsWritable)
    (short : (write (.object ((.valid key, value) :: members))).length ≤ room + 1) :
    readMembers (room + 1) (writeString key ++ (':' :: (write value ++
        (furtherParts (writeMembers .compact members) ++ '\x7d' :: rest)))) =
      some ((.valid key, value) :: members, rest) := by
  cases writable with
  | object keys parts =>
    obtain ⟨first, further⟩ := List.forall_mem_cons.mp parts
    obtain ⟨-, furtherKeys⟩ := List.forall_mem_cons.mp keys
    have ends := endsNumber_furtherParts (.inr rfl) (writeMembers .compact members) rest
    simp only [write_object, List.length_cons, List.length_append, List.length_nil] at short
    have enough : (write value).length < room := by omega
    have read := inner.value first enough ends
    simp only [writeString, List.cons_append, List.append_assoc, List.nil_append]
    rw [readMembers, dropBlanks_cons (by decide)]
    simp only [readString_flatMap, Option.bind_eq_bind, Option.bind_some]
    rw [dropBlanks_cons (by decide)]
    simp only [read, Option.bind_some]
    cases members with
    | nil => rfl
    | cons next members =>
      obtain ⟨text, nextValue⟩ := next
      obtain ⟨nextKey, ⟨⟩⟩ := furtherKeys _ List.mem_cons_self
      -- The members that are left make up a shorter object, so the room is enough for them.
      have read := inner.members rest (.object furtherKeys further) (by
        simp only [furtherParts_members, List.length_cons, List.length_append] at short
        simp only [write_object, List.length_cons, List.length_append, List.length_nil]
        omega)
      simp only [furtherParts_members, List.cons_append, List.append_assoc]
      simp [dropBlanks_cons (by decide : isBlank ',' = false), read]

theorem readsBack (room : Nat) : ReadsBack room := by
  induction room with
  | zero => exact readsBack_zero
  | succ room inner =>
    exact ⟨inner.readValue_succ, inner.readItems_succ, inner.readMembers_succ⟩

/-- A value that can be written is read back from what is written. -/
theorem read_write {value : Value} (writable : value.IsWritable) :
    read (write value) = some value := by
  have ends : EndsNumber [] := by rintro char ⟨⟩
  have back := (readsBack ((write value).length + 1)).value writable (Nat.lt_succ_self _) ends
  rw [List.append_nil] at back
  simp [read, back, dropBlanks]

end RuleLexer.Json
