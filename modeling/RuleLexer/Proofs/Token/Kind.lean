import RuleLexer.Token.Kind

/-!
# Names of kinds

A kind can be found by its dotted name, so no two kinds share one. The names are made of letters and
dots, and none of them begins at the root of all tokens, so that writing the root in front of a name
or leaving it out makes no difference to the reader.
-/
namespace RuleLexer.TokenKind

theorem ofDottedName?_dottedName (kind : TokenKind) :
    ofDottedName? kind.dottedName = some kind := by
  cases kind <;> decide +kernel

theorem dottedName_injective : Function.Injective dottedName := by
  intro kind twin same
  have found := ofDottedName?_dottedName kind
  rw [same, ofDottedName?_dottedName] at found
  exact (Option.some.inj found).symm

theorem isAlpha_of_mem_dottedName {kind : TokenKind} {char : Char}
    (member : char ∈ kind.dottedName.toList) : char.isAlpha ∨ char = '.' := by
  have each : all.all fun kind =>
      kind.dottedName.toList.all fun char => char.isAlpha || char = '.' := by
    decide +kernel
  have known : kind ∈ all := by cases kind <;> decide
  simpa using List.all_eq_true.mp (List.all_eq_true.mp each kind known) char member

/-- A kind is read from its name. -/
theorem parse_dottedName (kind : TokenKind) : parse kind.dottedName = .ok kind := by
  cases kind <;> rfl

end RuleLexer.TokenKind
