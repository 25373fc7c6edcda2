import Mathlib.Data.List.Forall2

/-!
# Computations that may fail

What the result of a computation says about its steps. A result is known by a check on it where the
result itself is too large to be written down. Two computations are compared step by step.
-/
namespace RuleLexer

variable {ε α β : Type}

/-- What is done in two steps is done if the first one is, and the second one after it. -/
theorem bind_eq_ok_iff {first : Except ε α} {next : α → Except ε β} {result : β} :
    first >>= next = .ok result ↔ ∃ value, first = .ok value ∧ next value = .ok result := by
  cases first <;> simp [bind, Except.bind]

/-- What is done in two steps fails in the first one, or in the second one after it. -/
theorem bind_eq_error_iff {first : Except ε α} {next : α → Except ε β} {cause : ε} :
    first >>= next = .error cause ↔
      first = .error cause ∨ ∃ value, first = .ok value ∧ next value = .error cause := by
  cases first <;> simp [bind, Except.bind]

section Guards

variable {condition : Prop} [Decidable condition] {report : Except ε Unit}
  {rest : Unit → Except ε α} (fails : report ≠ .ok ())

include fails

/-- Where a condition makes a computation report a failure, it succeeds only without it. -/
theorem guarded_eq_ok_iff {result : α} :
    (if condition then report >>= rest else rest ()) = .ok result ↔
      ¬condition ∧ rest () = .ok result := by
  by_cases holds : condition
  · simp [holds, bind_eq_ok_iff, fails]
  · simp [holds]

theorem guarded_eq_error_iff {cause : ε} :
    (if condition then report >>= rest else rest ()) = .error cause ↔
      condition ∧ report = .error cause ∨ ¬condition ∧ rest () = .error cause := by
  by_cases holds : condition
  · simp [holds, bind_eq_error_iff, fails]
  · simp [holds]

end Guards

/-- Items that are read one by one are what the reader makes of each. -/
theorem mapM_eq_ok_iff {read : α → Except ε β} {items : List α} {results : List β} :
    items.mapM read = .ok results ↔
      List.Forall₂ (fun item result => read item = .ok result) items results := by
  induction items generalizing results with
  | nil =>
    rw [List.forall₂_nil_left_iff]
    exact ⟨fun given => (Except.ok.inj given).symm, fun given => by rw [given]; rfl⟩
  | cons item items ih =>
    rw [List.mapM_cons, List.forall₂_cons_left_iff, bind_eq_ok_iff]
    constructor
    · rintro ⟨value, first, given⟩
      obtain ⟨values, further, given⟩ := bind_eq_ok_iff.mp given
      exact ⟨value, values, first, ih.mp further, (Except.ok.inj given).symm⟩
    · rintro ⟨value, values, first, further, rfl⟩
      exact ⟨value, first, bind_eq_ok_iff.mpr ⟨values, ih.mpr further, rfl⟩⟩

/-- A result that passes a check is there. -/
theorem exists_ok_of_any {result : Except ε α} {check : α → Bool}
    (passes : result.toOption.any check) : ∃ value, result = .ok value ∧ check value := by
  cases result with
  | error cause => cases passes
  | ok value => exact ⟨value, rfl, passes⟩

theorem eq_ok_of_toOption {result : Except ε α} {value : α}
    (known : result.toOption = some value) : result = .ok value := by
  cases result with
  | error cause => cases known
  | ok other => exact congrArg Except.ok (Option.some.inj known)

/-! ### Two computations -/

section Follows

variable {γ δ : Type} {related : α → β → Prop} {first : Except ε α} {second : Except ε β}

/-- Whatever the first computation results in, the second one results in something that is related
to it. Where the first one fails, nothing is said about the second one. -/
def Follows (related : α → β → Prop) (first : Except ε α) (second : Except ε β) : Prop :=
  ∀ ⦃value⦄, first = .ok value → ∃ other, second = .ok other ∧ related value other

namespace Follows

theorem ok {value : α} {other : β} (holds : related value other) :
    Follows related (.ok value : Except ε α) (.ok other) := by
  rintro _ ⟨⟩
  exact ⟨other, rfl, holds⟩

theorem error {cause : ε} : Follows related (.error cause) second := nofun

theorem refl (result : Except ε α) : Follows Eq result result :=
  fun value given => ⟨value, given, rfl⟩

theorem mono {weaker : α → β → Prop} (follows : Follows related first second)
    (implied : ∀ ⦃value other⦄, related value other → weaker value other) :
    Follows weaker first second := by
  intro value given
  obtain ⟨other, again, holds⟩ := follows given
  exact ⟨other, again, implied holds⟩

/-- What is done in two steps follows what is done in two others, if each of its steps does. -/
theorem bind {later : γ → δ → Prop} {next : α → Except ε γ} {other : β → Except ε δ}
    (follows : Follows related first second)
    (onwards : ∀ ⦃value again⦄, related value again → Follows later (next value) (other again)) :
    Follows later (first >>= next) (second >>= other) := by
  intro result given
  obtain ⟨value, known, given⟩ := bind_eq_ok_iff.mp given
  obtain ⟨again, found, holds⟩ := follows known
  obtain ⟨final, further, held⟩ := onwards holds given
  exact ⟨final, bind_eq_ok_iff.mpr ⟨again, found, further⟩, held⟩

end Follows

end Follows

end RuleLexer
