import TestScribe.Header.Definition
import TestScribe.Proofs.Header.Reading

/-!
# Lines that hold a definition

A line that declares a definition holds the keyword, so it is not blank.
-/

namespace TestScribe.Header

open TestScribe.Source TestScribe.Text

/-- No definition begins with another letter than that of its keyword. -/
theorem definitionForm?_cons_of_ne
    {character : Char}
    (differs : 'd' ≠ character)
    (rest : List Char) :
    definitionForm? (character :: rest) = none := by
  have begins : "def".toList.head? = some 'd' := by
    decide
  rw [definitionForm?, afterKeyword?_cons_of_ne begins differs]
  rfl

theorem prefix_of_definitionForm?
    {text : List Char}
    {signature : Signature}
    (success : definitionForm? text = some signature) :
    "def".toList <+: text := by
  rw [definitionForm?] at success
  rcases Option.bind_eq_some_iff.mp success with ⟨rest, keyword, -⟩
  exact prefix_of_afterKeyword? keyword

theorem isBlank_eq_false_of_definition?
    {line : Line}
    {signature : Signature}
    (declared : definition? line = some signature) :
    isBlank line = false := by
  rcases exists_suffix_of_leftmost? declared with
    ⟨before, text, rfl, success⟩
  rcases prefix_of_definitionForm? success with ⟨rest, rfl⟩
  have member : 'd' ∈ before ++ ("def".toList ++ rest) := by
    simp
  exact isBlank_eq_false_of_mem member (by decide)

end TestScribe.Header
