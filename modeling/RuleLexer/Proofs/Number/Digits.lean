import RuleLexer.Number

/-!
# Digits that are read back

A natural number that has been written in a base of at most sixteen is read as the same number, and
none but zero is written with a zero in front. Only digits are written, so whatever is no digit can
stand behind a number to end it.

## Main results

* `ofDigits?_toDigits`: the digits of a number are read as the number.
* `head?_toDigits_ne_zero`: the first digit is not zero, unless the number is.
-/
namespace RuleLexer.Number

variable {base value : Nat}

theorem digitIn?_digitChar {digit : Nat} (small : base ≤ 16) (below : digit < base) :
    digitIn? base digit.digitChar = some digit := by
  have known : ∀ digit < 16, digitValue? digit.digitChar = some digit := by decide
  simp [digitIn?, known digit (by omega), below]

theorem exists_of_mem_toDigits {char : Char} (two : 1 < base)
    (written : char ∈ Nat.toDigits base value) : ∃ digit < base, char = digit.digitChar := by
  induction value using Nat.strongRecOn with
  | ind value ih =>
    rcases Nat.lt_or_ge value base with below | beyond
    · rw [Nat.toDigits_of_lt_base below, List.mem_singleton] at written
      exact ⟨value, below, written⟩
    · -- The last digit is the remainder, and the digits before it are those of the quotient.
      rw [Nat.toDigits_of_base_le two beyond, List.mem_append, List.mem_singleton] at written
      rcases written with earlier | last
      · exact ih (value / base) (Nat.div_lt_self (by omega) two) earlier
      · exact ⟨value % base, Nat.mod_lt _ (by omega), last⟩

theorem isDigit_of_mem_toDigits {char : Char} (written : char ∈ Nat.toDigits 10 value) :
    char.isDigit := by
  obtain ⟨digit, below, rfl⟩ := exists_of_mem_toDigits (by decide) written
  have known : ∀ digit < 10, digit.digitChar.isDigit := by decide
  exact known digit below

/-- The digits of a number are read as the number. -/
theorem ofDigits?_toDigits (two : 1 < base) (small : base ≤ 16) (value : Nat) :
    ofDigits? base (Nat.toDigits base value) = some value := by
  have written : (Nat.toDigits base value).isEmpty = false := by simp
  rw [ofDigits?, written]
  change List.foldlM _ _ _ = _
  induction value using Nat.strongRecOn with
  | ind value ih =>
    rcases Nat.lt_or_ge value base with below | beyond
    · simp [Nat.toDigits_of_lt_base below, digitIn?_digitChar small below]
    · have front := ih (value / base) (Nat.div_lt_self (by omega) two)
        (by simp)
      have last := digitIn?_digitChar small (Nat.mod_lt value (by omega : base > 0))
      rw [Nat.toDigits_of_base_le two beyond, List.foldlM_append, front]
      simp [last, Nat.div_add_mod']

/-- A number other than zero is written without a zero in front. -/
theorem head?_toDigits_ne_zero (two : 1 < base) (small : base ≤ 16) (positive : 0 < value) :
    (Nat.toDigits base value).head? ≠ some '0' := by
  induction value using Nat.strongRecOn with
  | ind value ih =>
    rcases Nat.lt_or_ge value base with below | beyond
    · have known : ∀ digit < 16, 0 < digit → digit.digitChar ≠ '0' := by decide
      simpa [Nat.toDigits_of_lt_base below] using known value (by omega) positive
    · have front := ih (value / base) (Nat.div_lt_self (by omega) two)
        (Nat.div_pos beyond (by omega))
      obtain ⟨first, rest, same⟩ :=
        List.exists_cons_of_ne_nil (@Nat.toDigits_ne_nil (value / base) base)
      rw [same] at front
      rw [Nat.toDigits_of_base_le two beyond, same]
      exact front

end RuleLexer.Number
